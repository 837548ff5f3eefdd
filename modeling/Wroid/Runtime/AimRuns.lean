import Wroid.Runtime.MouseAim

/-!
# The contacts of an aim controller take turns

Runs of one controller, in any order of its calls.  Two things are followed beside the
agreement of the controller with its engine: which contacts were pressed, read off the frames
the injector was handed, and where the touches of those frames were.

A recentering hands over to the contact that was not pressed last.  An activation does not
look at the past: it always presses the primary contact.

## Main definitions

* `AimCall`, `MouseAimController.perform` — the calls of a controller.
* `TouchEngine.presses` — the contacts pressed so far, in order.
* `MouseAimController.upcoming` — the contact the next press is of.
* `MouseAimController.Turn`, `Took` — what the controller keeps about the turns, and what a
  call may do to them.

## Main results

* `perform_took`, `perform_spec` — one lemma a call.
* `aim_contacts_take_turns` — **whatever the calls, one contact at most is down, the one the
  controller tracks, and the contacts take turns while it is active**.
-/

namespace Wroid

open Lib TouchEngine

/-- One call of an aim controller. -/
inductive AimCall
  | activate (now : ℕ)
  | toggle (now : ℕ)
  | moveBy (delta : MouseAimDelta) (now : ℕ)
  | tick (now : ℕ)
  | setAdsActive (active : Bool)
  | deactivate
  | cancel

/-! ### What was pressed -/

/-- The contacts a frame presses. -/
def TouchFrame.presses (frame : TouchFrame) : List ContactId :=
  frame.events.filterMap fun event => if event.phase = .down then some event.contactId else none

section Presses

variable {I : Type}

/-- The contacts pressed so far. -/
def TouchEngine.presses (engine : TouchEngine (Recorder I)) : List ContactId :=
  engine.injector.submitted.flatMap TouchFrame.presses

variable [TouchInjector I] {eng : TouchEngine (Recorder I)}

/-- **A frame that went through** is recorded and committed. -/
theorem TouchEngine.submit_recorded (frame : TouchFrame) :
    wp (submit frame) (fun _ e => e.injector.submitted = eng.injector.submitted ++ [frame] ∧
      e.state = eng.state.applyFrame frame) (fun _ _ => True) eng := by
  simp only [submit, wp_bind, wp_get]
  cases eng.state.validateFrame frame with
  | error error => exact trivial
  | ok u =>
    simp only [wp_bind, wp_zoom, wp_mapError, wp_modify, TouchInjector.inject]
    exact wp_mono wp_true (fun _ _ _ => ⟨trivial, trivial⟩) fun _ _ _ => trivial

theorem TouchEngine.submit_presses (frame : TouchFrame) :
    wp (submit frame) (fun _ e => e.presses = eng.presses ++ frame.presses) (fun _ _ => True)
      eng := by
  refine wp_mono (submit_recorded frame) ?_ fun _ _ _ => trivial
  rintro - e ⟨hsubmitted, -⟩
  rw [presses, hsubmitted, List.flatMap_append, List.flatMap_singleton]
  rfl

theorem TouchEngine.beginContact_presses (a : ContactId) (p : Point) :
    wp (beginContact a p) (fun _ e => e.presses = eng.presses ++ [a]) (fun _ _ => True) eng :=
  submit_presses _

theorem TouchEngine.moveContact_presses (a : ContactId) (p : Point) :
    wp (moveContact a p) (fun _ e => e.presses = eng.presses) (fun _ _ => True) eng := by
  refine wp_mono (submit_presses _) (fun _ e he => ?_) fun _ _ _ => trivial
  rw [he]
  exact List.append_nil _

theorem TouchEngine.endContact_presses (a : ContactId) :
    wp (endContact a) (fun _ e => e.presses = eng.presses) (fun _ _ => True) eng := by
  simp only [endContact, wp_bind, wp_get]
  cases eng.state.position a with
  | none => exact trivial
  | some p =>
    refine wp_mono (submit_presses _) (fun _ e he => ?_) fun _ _ _ => trivial
    rw [he]
    exact List.append_nil _

theorem TouchEngine.cancelContact_presses (a : ContactId) (p : Point) :
    wp (cancelContact a p) (fun _ e => e.presses = eng.presses) (fun _ _ => True) eng := by
  refine wp_mono (submit_presses _) (fun _ e he => ?_) fun _ _ _ => trivial
  rw [he]
  exact List.append_nil _

end Presses

namespace MouseAimController

/-- Make a call, whatever it answers. -/
def perform {I : Type} [TouchInjector I] : AimCall → ControllerM I Unit
  | .activate now => discard (activate now)
  | .toggle now => discard (toggle now)
  | .moveBy delta now => discard (moveBy delta now)
  | .tick now => discard (tick now)
  | .setAdsActive active => update fun c => c.setAdsActive active
  | .deactivate => discard deactivate
  | .cancel => discard cancel

/-! ### Turns -/

/-- The contact that the next press is of. -/
def upcoming (c : MouseAimController) : ContactId :=
  if c.isActive then c.nextContactId else c.aim.contactId

/-- The contact kept for the next recentering is not the one in use. -/
structure Turn (c : MouseAimController) : Prop where
  next : c.nextContactId ∈ c.contacts
  active : ∀ a, c.activeContactId = some a → a = c.other c.nextContactId
  pending : ∀ r, c.pendingRecenter = some r →
    r.contactId = c.nextContactId ∧ r.previousContactId = c.other c.nextContactId

/-- What a call may do to the turns: press nothing, or the contact whose turn it is. -/
structure Took {I : Type} (eng : TouchEngine (Recorder I)) (c : MouseAimController)
    (t : TouchEngine (Recorder I) × MouseAimController) : Prop where
  aim : t.2.aim = c.aim
  settings : t.2.settings = c.settings
  turn : t.2.Turn
  pressed : (t.1.presses = eng.presses ∧ t.2.nextContactId = c.nextContactId) ∨
    (t.1.presses = eng.presses ++ [c.upcoming] ∧ t.2.nextContactId = c.other c.upcoming)

/-- Turns only depend on what the controller tracks. -/
theorem Turn.of_fields {c d : MouseAimController} (h : c.Turn) (haim : d.aim = c.aim)
    (hsettings : d.settings = c.settings)
    (hactive : ∀ a, d.activeContactId = some a → c.activeContactId = some a)
    (hnext : d.nextContactId = c.nextContactId)
    (hpending : ∀ r, d.pendingRecenter = some r → ∃ q, c.pendingRecenter = some q ∧
      r.contactId = q.contactId ∧ r.previousContactId = q.previousContactId) : d.Turn := by
  have hother : ∀ a, d.other a = c.other a := fun a => by rw [other, other, haim, hsettings]
  have hcontacts : d.contacts = c.contacts := by rw [contacts, contacts, haim, hsettings]
  refine ⟨?_, ?_, ?_⟩
  · rw [hnext, hcontacts]
    exact h.next
  · intro a ha
    rw [hnext, hother]
    exact h.active a (hactive a ha)
  · intro r hr
    obtain ⟨q, hq, hcontact, hprevious⟩ := hpending r hr
    rw [hnext, hother, hcontact, hprevious]
    exact h.pending q hq

/-- The contact that takes its turn is then in use, and the other one is next. -/
theorem Turn.taken {c d : MouseAimController} {a : ContactId} (ha : a ∈ c.contacts)
    (haim : d.aim = c.aim) (hsettings : d.settings = c.settings)
    (hactive : d.activeContactId = some a) (hnext : d.nextContactId = c.other a)
    (hpending : d.pendingRecenter = none) : d.Turn := by
  have hother : ∀ b, d.other b = c.other b := fun b => by rw [other, other, haim, hsettings]
  have hcontacts : d.contacts = c.contacts := by rw [contacts, contacts, haim, hsettings]
  refine ⟨?_, ?_, ?_⟩
  · rw [hnext, hcontacts]
    exact c.other_mem a
  · intro b hb
    obtain rfl := Option.some.inj (hactive.symm.trans hb)
    rw [hnext, hother, other_other ha]
  · intro r hr
    rw [hpending] at hr
    cases hr

section Calls

variable {I : Type} {eng : TouchEngine (Recorder I)} {c : MouseAimController}

/-- A call that presses nothing. -/
theorem Took.idle {t : TouchEngine (Recorder I) × MouseAimController} (h : c.Turn)
    (hpresses : t.1.presses = eng.presses) (haim : t.2.aim = c.aim)
    (hsettings : t.2.settings = c.settings)
    (hactive : ∀ a, t.2.activeContactId = some a → c.activeContactId = some a)
    (hnext : t.2.nextContactId = c.nextContactId)
    (hpending : ∀ r, t.2.pendingRecenter = some r → ∃ q, c.pendingRecenter = some q ∧
      r.contactId = q.contactId ∧ r.previousContactId = q.previousContactId) : Took eng c t :=
  ⟨haim, hsettings, h.of_fields haim hsettings hactive hnext hpending, .inl ⟨hpresses, hnext⟩⟩

theorem Took.refl (h : c.Turn) : Took eng c (eng, c) :=
  .idle h rfl rfl rfl (fun _ ha => ha) rfl fun r hr => ⟨r, hr, rfl, rfl⟩

/-- A call after a change that the turns do not depend on. -/
theorem Took.of_equiv {d : MouseAimController} {t : TouchEngine (Recorder I) × MouseAimController}
    (h : Took eng d t) (haim : d.aim = c.aim) (hsettings : d.settings = c.settings)
    (hactive : d.isActive = c.isActive) (hnext : d.nextContactId = c.nextContactId) :
    Took eng c t := by
  have hother : ∀ a, d.other a = c.other a := fun a => by rw [other, other, haim, hsettings]
  have hupcoming : d.upcoming = c.upcoming := by rw [upcoming, upcoming, hactive, hnext, haim]
  refine ⟨h.aim.trans haim, h.settings.trans hsettings, h.turn, ?_⟩
  rw [← hnext, ← hupcoming, ← hother]
  exact h.pressed

variable [TouchInjector I]

theorem applyResidual_presses (a : ContactId) (dx dy : ℤ) :
    wp (applyResidual a dx dy) (fun _ t => t.1.presses = eng.presses ∧ t.2 = c) (fun _ _ => True)
      (eng, c) := by
  simp only [applyResidual, wp_bind, wp_get, wp_ite, wp_onEngine, wp_pure]
  split
  · exact wp_mono (moveContact_presses _ _) (fun _ e he => ⟨he, trivial⟩) fun _ _ _ => trivial
  · exact ⟨trivial, trivial⟩

theorem activate_took (now : ℕ) (h : c.Turn) :
    wp (activate now) (fun _ t => Took eng c t) (fun _ _ => True) (eng, c) := by
  simp only [activate, wp_bind, wp_get, wp_ite, wp_pure, wp_onEngine, wp_update]
  split
  · exact .refl h
  · next hidle =>
    have hpending : c.pendingRecenter = none := by
      simp only [isActive, Bool.or_eq_true, Option.isSome_iff_ne_none, not_or, not_not] at hidle
      exact hidle.2
    have hother : c.other c.aim.contactId = c.settings.alternateContactId := by simp [other]
    have hupcoming : c.upcoming = c.aim.contactId := by simp [upcoming, hidle]
    refine wp_mono (beginContact_presses _ _) (fun _ e he => ?_) fun _ _ _ => trivial
    refine ⟨rfl, rfl, .taken primary_mem rfl rfl rfl hother.symm hpending, .inr ⟨?_, ?_⟩⟩
    · rw [hupcoming]
      exact he
    · rw [hupcoming, hother]

theorem tick_took (now : ℕ) (h : c.Turn) :
    wp (tick now) (fun _ t => Took eng c t) (fun _ _ => True) (eng, c) := by
  simp only [tick, wp_bind, wp_get]
  split
  · next r hr =>
    obtain ⟨hcontact, hprevious⟩ := h.pending r hr
    simp only [wp_ite, wp_pure, wp_bind, wp_onEngine, wp_update]
    split
    · exact .refl h
    · refine wp_mono (beginContact_presses _ _) (fun _ e he => ?_) fun _ _ _ => trivial
      refine wp_mono (applyResidual_presses _ _ _) ?_ fun _ _ _ => trivial
      rintro - ⟨e', c'⟩ ⟨he', rfl⟩
      have hupcoming : c.upcoming = r.contactId := by simp [upcoming, isActive, hr, hcontact]
      have hnext : r.previousContactId = c.other r.contactId := by rw [hprevious, hcontact]
      have hmem : r.contactId ∈ c.contacts := by
        rw [hcontact]
        exact h.next
      refine ⟨rfl, rfl, .taken hmem rfl rfl rfl hnext rfl, .inr ⟨?_, ?_⟩⟩
      · rw [hupcoming, ← he]
        exact he'
      · rw [hupcoming]
        exact hnext
  · split
    · simp only [wp_ite, wp_pure]
      split
      · exact .refl h
      · split
        · exact .refl h
        · simp only [wp_bind, wp_onEngine, wp_update, wp_pure]
          refine wp_mono (moveContact_presses _ _) (fun _ e he => ?_) fun _ _ _ => trivial
          exact .idle h he rfl rfl (fun _ ha => ha) rfl fun r hr => ⟨r, hr, rfl, rfl⟩
    · exact .refl h

theorem recenter_took {a : ContactId} (p : Point) (dx dy : ℤ) (now : ℕ) (h : c.Turn)
    (ha : c.activeContactId = some a) (hpending : c.pendingRecenter = none) :
    wp (recenter a p dx dy now) (fun _ t => Took eng c t) (fun _ _ => True) (eng, c) := by
  obtain rfl := h.active a ha
  have hactive : c.isActive = true := by simp [isActive, ha]
  have hupcoming : c.upcoming = c.nextContactId := by simp [upcoming, hactive]
  have hne : c.other c.nextContactId ≠ c.nextContactId := other_ne h.next
  simp only [recenter, wp_bind, wp_get, wp_ite, wp_onEngine, wp_update, wp_pure]
  split
  · refine wp_mono (submit_presses _) (fun _ e he => ?_) fun _ _ _ => trivial
    refine wp_mono (applyResidual_presses _ _ _) ?_ fun _ _ _ => trivial
    rintro - ⟨e', c'⟩ ⟨he', rfl⟩
    refine ⟨rfl, rfl, .taken h.next rfl rfl rfl rfl hpending, .inr ⟨?_, ?_⟩⟩
    · rw [hupcoming, show e'.presses = e.presses from he', he]
      rfl
    · rw [hupcoming]
  · refine wp_mono (endContact_presses _) (fun _ e he => ?_) fun _ _ _ => trivial
    refine ⟨rfl, rfl, ⟨h.next, ?_, ?_⟩, .inl ⟨he, rfl⟩⟩
    · intro a ha
      cases ha
    · rintro r ⟨⟩
      exact ⟨rfl, rfl⟩

theorem moveBy_took (delta : MouseAimDelta) (now : ℕ) (h : c.Turn) :
    wp (moveBy delta now) (fun _ t => Took eng c t) (fun _ _ => True) (eng, c) := by
  simp only [moveBy, wp_bind, wp_get, wp_ite, wp_pure]
  split
  · exact .refl h
  simp only [wp_update]
  generalize hscaled : (c.scaledDelta delta).2 = scaled
  obtain ⟨x, y, rfl⟩ : ∃ x y, scaled = { c with carryX := x, carryY := y } :=
    ⟨_, _, hscaled ▸ c.scaledDelta_fields delta⟩
  generalize hd : ({ c with carryX := x, carryY := y } : MouseAimController) = d
  have hdturn : d.Turn := by
    subst hd
    exact ⟨h.next, h.active, h.pending⟩
  have hback : ∀ t, Took eng d t → Took eng c t := by
    subst hd
    exact fun t ht => ht.of_equiv rfl rfl rfl rfl
  split
  · next r hr =>
    -- the motion joins the pending one, then the gap may be over
    simp only [wp_bind, wp_update]
    subst hd
    refine wp_mono (tick_took now ?_) (fun _ t ht => ?_) fun _ _ _ => trivial
    · exact h.of_fields rfl rfl (fun _ ha => ha) rfl fun q hq => ⟨r, hr, by cases hq; simp⟩
    · refine ht.of_equiv rfl rfl ?_ rfl
      simp [isActive, hr]
  · next hpending =>
    split
    · exact hback _ (.refl hdturn)
    · next a ha =>
      split
      · exact hback _ (.refl hdturn)
      · simp only [wp_ite, wp_pure, wp_bind, wp_onEngine, wp_update]
        split
        · exact hback _ (.refl hdturn)
        split
        · refine wp_mono (recenter_took _ _ _ now hdturn ?_ ?_) (fun _ t ht => hback t ht)
            fun _ _ _ => trivial
          · subst hd
            exact ha
          · subst hd
            exact hpending
        · refine wp_mono (moveContact_presses _ _) (fun _ e he => ?_) fun _ _ _ => trivial
          refine hback _ (.idle hdturn he rfl rfl (fun _ ha => ha) rfl fun q hq => ?_)
          exact ⟨q, hq, rfl, rfl⟩

theorem deactivate_took (h : c.Turn) :
    wp deactivate (fun _ t => Took eng c t) (fun _ _ => True) (eng, c) := by
  have hidle : ∀ e : TouchEngine (Recorder I), e.presses = eng.presses →
      Took eng c (e, { c with
        activeContactId := none, pendingRecenter := none, adsActive := false
        lastReaffirmAt := none, carryX := 0, carryY := 0 }) :=
    fun e he => .idle h he rfl rfl (fun _ ha => nomatch ha) rfl fun _ hr => nomatch hr
  simp only [deactivate, wp_bind, wp_get, wp_update]
  split
  · simp only [wp_ite, wp_bind, wp_onEngine, wp_pure]
    split
    · exact wp_mono (endContact_presses _) (fun _ e he => hidle e he) fun _ _ _ => trivial
    · exact hidle eng rfl
  · exact hidle eng rfl

theorem cancel_took (h : c.Turn) :
    wp cancel (fun _ t => Took eng c t) (fun _ _ => True) (eng, c) := by
  have hidle : ∀ e : TouchEngine (Recorder I), e.presses = eng.presses →
      Took eng c (e, { c with
        activeContactId := none, pendingRecenter := none, adsActive := false
        lastReaffirmAt := none, carryX := 0, carryY := 0 }) :=
    fun e he => .idle h he rfl rfl (fun _ ha => nomatch ha) rfl fun _ hr => nomatch hr
  simp only [cancel, wp_bind, wp_get, wp_update]
  split
  · split
    · simp only [wp_bind, wp_onEngine, wp_pure]
      exact wp_mono (cancelContact_presses _ _) (fun _ e he => hidle e he) fun _ _ _ => trivial
    · exact hidle eng rfl
  · exact hidle eng rfl

omit [TouchInjector I] in
theorem setAdsActive_took (active : Bool) (h : c.Turn) :
    Took eng c (eng, c.setAdsActive active) := by
  obtain ⟨haim, hsettings, hactive, hnext, hpending⟩ := c.setAdsActive_fields active
  refine .idle h rfl haim hsettings ?_ hnext ?_
  · intro a ha
    exact hactive ▸ ha
  · intro r hr
    exact ⟨r, hpending ▸ hr, rfl, rfl⟩

/-- **What one call presses.** -/
theorem perform_took (call : AimCall) (h : c.Turn) :
    wp (perform call) (fun _ t => Took eng c t) (fun _ _ => True) (eng, c) := by
  cases call with
  | activate now => exact (wp_map _ _).mpr (activate_took now h)
  | toggle now =>
    refine (wp_map _ _).mpr ?_
    simp only [toggle, wp_bind, wp_get, wp_ite]
    split
    · exact deactivate_took h
    · exact activate_took now h
  | moveBy delta now => exact (wp_map _ _).mpr (moveBy_took delta now h)
  | tick now => exact (wp_map _ _).mpr (tick_took now h)
  | setAdsActive active => exact setAdsActive_took active h
  | deactivate => exact (wp_map _ _).mpr (deactivate_took h)
  | cancel => exact (wp_map _ _).mpr (cancel_took h)

end Calls

end MouseAimController

/-! ### What holds in every run -/

/-- An injector that never fails, recorded: every touch handed to it is in `W`. -/
def Contract.recorded {I : Type} [TouchInjector I] (h : NeverFails I) (W : Set Point) :
    Contract (Recorder I) where
  Inv _ r := ∀ frame ∈ r.submitted, ∀ e ∈ frame.events, e.position ∈ W
  Allowed frame := ∀ e ∈ frame.events, e.position ∈ W
  Failed _ _ := False
  inject_spec _ r frame hr _ hframe := by
    obtain ⟨i, hi⟩ := h frame r.inner
    have hsubmitted : ∀ f ∈ r.submitted ++ [frame], ∀ e ∈ f.events, e.position ∈ W := by
      simpa [or_imp, forall_and] using ⟨hr, hframe⟩
    simp only [TouchInjector.inject, wp_bind, wp_modify, wp_zoom]
    exact wp_of_ok hi hsubmitted

theorem Contract.recorded_allows {I : Type} [TouchInjector I] (h : NeverFails I) (W : Set Point)
    (cs : Set ContactId) : (recorded h W).AllowsOn cs W where
  single _ _ p hp _ := by simpa [Contract.recorded] using hp
  handOver _ _ _ _ _ p hp q hq := by
    simpa [Contract.recorded, Contract.handOverFrame] using ⟨hp, hq⟩

namespace MouseAimController

section Runs

variable {I : Type} [TouchInjector I]

/-- **What one call keeps**: the agreement with the engine, and whatever a contract says. -/
theorem perform_spec {K : Contract I} {eng : TouchEngine I} {c : MouseAimController}
    (call : AimCall) (hK : K.Holds eng) (h : c.Agrees eng.state.position)
    (ha : K.AllowsOn c.contacts c.aim.region.pixels) :
    wp (perform call) (fun _ t => ∃ active, AimStep K eng c active t) (fun e t => K.Fails e t.1)
      (eng, c) := by
  cases call with
  | activate now =>
    exact (wp_map _ _).mpr (wp_mono (activate_spec now hK h ha) (fun _ _ ht => ⟨_, ht⟩)
      fun _ _ ht => ht)
  | toggle now =>
    exact (wp_map _ _).mpr (wp_mono (toggle_spec now hK h ha) (fun _ _ ht => ⟨_, ht⟩)
      fun _ _ ht => ht)
  | moveBy delta now =>
    exact (wp_map _ _).mpr (wp_mono (moveBy_spec delta now hK h ha) (fun _ _ ht => ⟨_, ht⟩)
      fun _ _ ht => ht)
  | tick now =>
    exact (wp_map _ _).mpr (wp_mono (tick_spec now hK h ha) (fun _ _ ht => ⟨_, ht⟩)
      fun _ _ ht => ht)
  | setAdsActive active =>
    obtain ⟨haim, hsettings, hactive, hnext, hpending⟩ := c.setAdsActive_fields active
    exact ⟨_, hK, h.of_fields haim hsettings hactive hnext hpending, haim, hsettings, rfl,
      fun _ _ => rfl⟩
  | deactivate =>
    exact (wp_map _ _).mpr (wp_mono (deactivate_spec hK h ha) (fun _ _ ht => ⟨_, ht⟩)
      fun _ _ ht => ht)
  | cancel =>
    exact (wp_map _ _).mpr (wp_mono (cancel_spec hK h ha) (fun _ _ ht => ⟨_, ht⟩)
      fun _ _ ht => ht)

/-- The contact kept for the next recentering is not the one pressed last. -/
def TookTurns (t : TouchEngine (Recorder I) × MouseAimController) : Prop :=
  ∀ a, t.1.presses.getLast? = some a → a ∈ t.2.contacts ∧ t.2.nextContactId = t.2.other a

omit [TouchInjector I] in
theorem Took.tookTurns {eng : TouchEngine (Recorder I)} {c : MouseAimController}
    {t : TouchEngine (Recorder I) × MouseAimController} (hc : c.Turn) (h : Took eng c t)
    (hturns : TookTurns (eng, c)) : TookTurns t := by
  have hother : ∀ a, t.2.other a = c.other a := fun a => by
    rw [other, other, h.aim, h.settings]
  have hcontacts : t.2.contacts = c.contacts := by rw [contacts, contacts, h.aim, h.settings]
  have hupcoming : c.upcoming ∈ c.contacts := by
    unfold upcoming
    split
    · exact hc.next
    · exact primary_mem
  intro a ha
  rw [hother, hcontacts]
  rcases h.pressed with ⟨hpresses, hnext⟩ | ⟨hpresses, hnext⟩
  · rw [hpresses] at ha
    rw [hnext]
    exact hturns a ha
  · rw [hpresses, List.getLast?_append_of_ne_nil _ (List.cons_ne_nil _ _)] at ha
    obtain rfl : c.upcoming = a := Option.some.inj ha
    exact ⟨hupcoming, hnext⟩

/-- What holds after every call of a run of the controller `c`. -/
structure InTurn (hnever : NeverFails I) (c : MouseAimController)
    (t : TouchEngine (Recorder I) × MouseAimController) : Prop where
  inside : (Contract.recorded hnever c.aim.region.pixels).Holds t.1
  agrees : t.2.Agrees t.1.state.position
  aim : t.2.aim = c.aim
  settings : t.2.settings = c.settings
  turn : t.2.Turn
  turns : TookTurns t

theorem new_inTurn (hnever : NeverFails I) {aim : MouseAim} {settings : MouseAimSettings}
    {c : MouseAimController} (hnew : MouseAimController.new aim settings = .ok c)
    {engine : TouchEngine (Recorder I)} (hlog : engine.injector.submitted = [])
    (hup : ∀ d ∈ c.contacts, engine.state.position d = none) : InTurn hnever c (engine, c) := by
  obtain ⟨hagrees, -, -, -⟩ := new_agrees hnew hup
  unfold MouseAimController.new at hnew
  split_ifs at hnew
  obtain rfl := Except.ok.inj hnew
  refine ⟨?_, hagrees, rfl, rfl, ⟨.inr rfl, by simp, by simp⟩, ?_⟩
  · intro frame hframe
    rw [hlog] at hframe
    cases hframe
  · intro a ha
    simp [TouchEngine.presses, hlog] at ha

/-- **One call of a run** over an injector that never fails. -/
theorem perform_inTurn (hnever : NeverFails I) {c : MouseAimController} (call : AimCall)
    (t : TouchEngine (Recorder I) × MouseAimController) (h : InTurn hnever c t) :
    wp (perform call) (fun _ t' => InTurn hnever c t' ∧ Took t.1 t.2 t') (fun _ _ => False) t := by
  obtain ⟨eng, d⟩ := t
  have hallows : (Contract.recorded hnever c.aim.region.pixels).AllowsOn d.contacts
      d.aim.region.pixels := by
    rw [show d.aim = c.aim from h.aim]
    exact Contract.recorded_allows hnever _ _
  refine wp_mono (wp_and (perform_spec call h.inside h.agrees hallows) (perform_took call h.turn))
    ?_ fun _ _ ht => ?_
  · rintro - t' ⟨⟨active, hstep⟩, htook⟩
    exact ⟨⟨hstep.holds, hstep.agrees, hstep.aim.trans h.aim, hstep.settings.trans h.settings,
      htook.turn, htook.tookTurns h.turn h.turns⟩, htook⟩
  · obtain ⟨⟨_, -, hfailed⟩, -⟩ := ht
    exact hfailed

theorem run_inTurn (hnever : NeverFails I) {c : MouseAimController} (calls : List AimCall)
    {t : TouchEngine (Recorder I) × MouseAimController} (h : InTurn hnever c t) :
    wp (runAll perform calls) (fun _ t' => InTurn hnever c t') (fun _ _ => False) t :=
  wp_runAll (fun call t ht => wp_mono (perform_inTurn hnever call t ht) (fun _ _ ht => ht.1)
    fun _ _ h => h) calls h

/-- One contact at most is down: the tracked one. -/
theorem Agrees.tracked_iff {c : MouseAimController} {st : TouchState} (h : c.Agrees st.position)
    {a : ContactId} (ha : a ∈ c.contacts) :
    c.activeContactId = some a ↔ st.isActive a = true := by
  rw [TouchState.isActive_eq]
  cases h with
  | idle active pending up => simp [active, up a ha]
  | waiting r active pending mem previous up => simp [active, up a ha]
  | tracking b p active pending mem next down inside up =>
    rcases eq_or_eq_other mem ha with rfl | rfl
    · simp [active, down]
    · simp [active, up, (other_ne mem).symm]

/-- **Whatever the calls, one contact at most is down, the one the controller tracks.**  The
contact kept for the next recentering is the other one than was pressed last.  It is the next
to be pressed while the controller is active; an activation presses the primary contact. -/
theorem aim_contacts_take_turns (hnever : NeverFails I) {aim : MouseAim}
    {settings : MouseAimSettings} {c : MouseAimController}
    (hnew : MouseAimController.new aim settings = .ok c) {engine : TouchEngine (Recorder I)}
    (hlog : engine.injector.submitted = [])
    (hup : ∀ d ∈ c.contacts, engine.state.position d = none) (calls : List AimCall) :
    ∃ t, runAll perform calls (engine, c) = .ok () t ∧
      ¬ (t.1.state.isActive aim.contactId = true ∧
        t.1.state.isActive settings.alternateContactId = true) ∧
      (∀ a, t.2.activeContactId = some a ↔
        (a = aim.contactId ∨ a = settings.alternateContactId) ∧ t.1.state.isActive a = true) ∧
      (t.2.pendingRecenter ≠ none → t.1.state.isActive aim.contactId = false ∧
        t.1.state.isActive settings.alternateContactId = false) ∧
      (∀ a, t.1.presses.getLast? = some a →
        (a = aim.contactId ∧ t.2.nextContactId = settings.alternateContactId) ∨
        (a = settings.alternateContactId ∧ t.2.nextContactId = aim.contactId)) ∧
      (∀ call t', perform call t = .ok () t' → t'.1.presses = t.1.presses ∨
        t'.1.presses = t.1.presses ++
          [if t.2.isActive then t.2.nextContactId else aim.contactId]) ∧
      ∀ frame ∈ t.1.injector.submitted, ∀ e ∈ frame.events, aim.region.Contains e.position := by
  obtain ⟨u, t, hrun, h⟩ := wp_returns (run_inTurn hnever calls (new_inTurn hnever hnew hlog hup))
  obtain ⟨-, hcaim, hcsettings, -⟩ := new_agrees hnew hup
  have haim : t.2.aim = aim := h.aim.trans hcaim
  have hsettings : t.2.settings = settings := h.settings.trans hcsettings
  have hmem : ∀ a, a ∈ t.2.contacts ↔ a = aim.contactId ∨ a = settings.alternateContactId := by
    intro a
    rw [contacts, haim, hsettings]
    exact Iff.rfl
  have hprimary := (hmem aim.contactId).mpr (.inl rfl)
  have halternate := (hmem settings.alternateContactId).mpr (.inr rfl)
  have hne : settings.alternateContactId ≠ aim.contactId := by
    rw [← haim, ← hsettings]
    exact t.2.alternate_ne
  refine ⟨t, hrun, ?_, ?_, ?_, ?_, ?_, ?_⟩
  · rintro ⟨hp, hs⟩
    have hp' := (h.agrees.tracked_iff hprimary).mpr hp
    have hs' := (h.agrees.tracked_iff halternate).mpr hs
    exact hne (Option.some.inj (hs'.symm.trans hp'))
  · intro a
    rw [← hmem]
    constructor
    · intro ha
      have hin : a ∈ t.2.contacts := by
        rw [h.turn.active a ha]
        exact t.2.other_mem _
      exact ⟨hin, (h.agrees.tracked_iff hin).mp ha⟩
    · rintro ⟨hin, ha⟩
      exact (h.agrees.tracked_iff hin).mpr ha
  · intro hpending
    cases h.agrees with
    | idle active pending up => exact absurd pending hpending
    | tracking a p active pending => exact absurd pending hpending
    | waiting r active pending mem previous up =>
      rw [TouchState.isActive_eq, TouchState.isActive_eq, up _ hprimary, up _ halternate]
      exact ⟨rfl, rfl⟩
  · intro a ha
    obtain ⟨hin, hnext⟩ := h.turns a ha
    rw [hnext, other, haim, hsettings]
    rcases (hmem a).mp hin with rfl | rfl
    · exact .inl ⟨rfl, if_pos rfl⟩
    · exact .inr ⟨rfl, if_neg hne⟩
  · intro call t' ht'
    have htook := (wp_ok (perform_inTurn hnever call t h) ht').2
    rw [← haim]
    rcases htook.pressed with ⟨hpresses, -⟩ | ⟨hpresses, -⟩
    · exact .inl hpresses
    · exact .inr hpresses
  · intro frame hframe e he
    have hinside := h.inside frame hframe e he
    rw [← hcaim]
    exact hinside

end Runs

/-- An aim in the middle of a small square, with the contacts `1` and `2`. -/
def squareAim : MouseAim :=
  ⟨1, ⟨5, 5⟩, ⟨0, 0, 10, 10⟩, ⟨1, 1, by decide, by decide⟩, by decide⟩

def squareSettings : MouseAimSettings := ⟨2, none, 700, 0, none, none⟩

/-- The controller of that aim. -/
def squareController : MouseAimController :=
  { aim := squareAim
    settings := squareSettings
    activeContactId := none
    nextContactId := 2
    pendingRecenter := none
    adsActive := false
    recenterCount := 0
    lastReaffirmAt := none
    carryX := 0
    carryY := 0
    alternate_ne := by decide }

theorem aim_contacts_take_turns_square :
    MouseAimController.new squareAim squareSettings = .ok squareController ∧
      ∃ t, runAll perform [.activate 0, .moveBy ⟨9, 0⟩ 1, .deactivate]
        (TouchEngine.new (Recorder.new ()), squareController) = .ok () t ∧
        ¬ (t.1.state.isActive 1 = true ∧ t.1.state.isActive 2 = true) := by
  refine ⟨rfl, ?_⟩
  obtain ⟨t, hrun, hone, -⟩ := aim_contacts_take_turns neverFails_unit
    (show MouseAimController.new squareAim squareSettings = .ok squareController from rfl)
    (show (TouchEngine.new (Recorder.new ())).injector.submitted = [] from rfl)
    (fun _ _ => TouchState.position_empty _) [.activate 0, .moveBy ⟨9, 0⟩ 1, .deactivate]
  exact ⟨t, hrun, hone⟩

/-- A second activation presses the contact that was pressed last. -/
theorem second_activation_presses_the_same :
    MouseAimController.new squareAim squareSettings = .ok squareController ∧
      ∃ u t, runAll perform [.activate 0, .deactivate, .activate 1]
        (TouchEngine.new (Recorder.new ()), squareController) = .ok u t ∧
        decide (t.1.presses = [1, 1]) = true :=
  ⟨rfl, exists_of_returnsWith (by decide +kernel)⟩

end MouseAimController

end Wroid
