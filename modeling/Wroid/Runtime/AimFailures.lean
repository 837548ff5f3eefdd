import Wroid.Lib.Preserves
import Wroid.Runtime.AimRuns

/-!
# An aim controller and an injector that may refuse

Every operation of the controller submits its frame first and records the outcome afterwards,
with two exceptions: `deactivate` and `cancel` forget the tracked contact before they release
it.  A suspension relies on that, and cancels whatever is left with one frame of its own.

So what the controller tracks is always down.  The converse is lost when a release is refused,
and only then: the contact stays down, and nobody tracks it.

## Main definitions

* `MouseAimController.attempted` — make a call, and go on even if it failed.
* `Tracks O` — the controller tracks contacts that are down, and all of them but those in `O`.
* `LetsGo` — the injector does not refuse the release that a call submits.

## Main results

* `activate_tracks` and those after it — no call but a refused release adds to `O`.
* `deactivate_refused`, `cancel_refused` — a refused release leaves the contact untracked.
* `tracked_contacts_are_down` — **what holds in every run, whatever fails**.
-/

namespace Wroid

open Lib TouchEngine

/-! ### Frames that may be refused -/

section Engine

variable {I : Type} [TouchInjector I] {eng : TouchEngine I}

/-- The injector would refuse the frame. -/
def TouchEngine.refuses (engine : TouchEngine I) (frame : TouchFrame) : Bool :=
  match TouchInjector.inject frame engine.injector with
  | .ok _ _ => false
  | .error _ _ => true

/-- **A frame is committed as a whole, or not at all.** -/
theorem TouchEngine.submit_commits (frame : TouchFrame) :
    wp (submit frame) (fun _ e => e.state = eng.state.applyFrame frame)
      (fun _ e => e.state = eng.state) eng := by
  simp only [submit, wp_bind, wp_get]
  cases eng.state.validateFrame frame with
  | error error => exact rfl
  | ok u =>
    simp only [wp_bind, wp_zoom, wp_mapError, wp_modify]
    exact wp_mono wp_true (fun _ _ _ => trivial) fun _ _ _ => trivial

theorem TouchState.isActive_applyEvent (st : TouchState) (event : TouchEvent) (d : ContactId) :
    (st.applyEvent event).isActive d =
      if event.contactId = d then event.after.isSome else st.isActive d := by
  rw [isActive_eq, isActive_eq, position_applyEvent]
  split <;> rfl

theorem TouchEngine.beginContact_commits (a : ContactId) (p : Point) :
    wp (beginContact a p)
      (fun _ e => ∀ d, e.state.isActive d = if a = d then true else eng.state.isActive d)
      (fun _ e => e.state = eng.state) eng := by
  refine wp_mono (submit_commits _) (fun _ e he d => ?_) fun _ _ he => he
  rw [he, TouchState.applyFrame_single, TouchState.isActive_applyEvent]
  rfl

theorem TouchEngine.moveContact_commits {a : ContactId} (p : Point)
    (ha : eng.state.isActive a = true) :
    wp (moveContact a p) (fun _ e => ∀ d, e.state.isActive d = eng.state.isActive d)
      (fun _ e => e.state = eng.state) eng := by
  refine wp_mono (submit_commits _) (fun _ e he d => ?_) fun _ _ he => he
  rw [he, TouchState.applyFrame_single, TouchState.isActive_applyEvent]
  split
  · next hd => rw [← hd, ha]; rfl
  · rfl

theorem TouchEngine.endContact_commits (a : ContactId) :
    wp (endContact a)
      (fun _ e => ∀ d, e.state.isActive d = if a = d then false else eng.state.isActive d)
      (fun _ e => e.state = eng.state) eng := by
  simp only [endContact, wp_bind, wp_get]
  cases eng.state.position a with
  | none => exact rfl
  | some p =>
    refine wp_mono (submit_commits _) (fun _ e he d => ?_) fun _ _ he => he
    rw [he, TouchState.applyFrame_single, TouchState.isActive_applyEvent]
    rfl

theorem TouchEngine.handOver_commits (a b : ContactId) (p q : Point) :
    wp (submit (Contract.handOverFrame a p b q)) (fun _ e => ∀ d, e.state.isActive d =
        if b = d then false else if a = d then true else eng.state.isActive d)
      (fun _ e => e.state = eng.state) eng := by
  refine wp_mono (submit_commits _) (fun _ e he d => ?_) fun _ _ he => he
  rw [he, Contract.handOverFrame, TouchState.applyFrame, List.foldl_cons, List.foldl_cons,
    List.foldl_nil, TouchState.isActive_applyEvent, TouchState.isActive_applyEvent]
  rfl

/-- A release that fits is only kept from being committed by the injector. -/
theorem TouchEngine.release_commits {event : TouchEvent} (hfits : event.Fits eng.state)
    (hafter : event.after = none) (haccepted : eng.refuses (.single event) = false) :
    wp (submit (.single event)) (fun _ e => ∀ d, e.state.isActive d =
      if event.contactId = d then false else eng.state.isActive d) (fun _ _ => False) eng := by
  have hok := TouchState.validateFrame_eq_ok.mpr (TouchState.frameValid_single hfits)
  simp only [submit, wp_bind, wp_get, hok, wp_zoom, wp_mapError, wp_modify]
  unfold refuses at haccepted
  cases hinject : TouchInjector.inject (.single event) eng.injector with
  | error e i => simp [hinject] at haccepted
  | ok u i =>
    refine wp_of_ok hinject fun d => ?_
    rw [TouchState.applyFrame_single, TouchState.isActive_applyEvent, hafter]
    rfl

end Engine

namespace MouseAimController

variable {I : Type} [TouchInjector I]

/-- Make a call, and go on whether or not it failed. -/
def attempted (call : AimCall) : ControllerM I Unit := do
  let _ ← (attempt (perform call) : ControllerM I (Except TouchEngineError Unit))

/-! ### What is tracked -/

/-- The controller only tracks a contact that is down.  It tracks every contact of its own that
is down, except for those in `O`. -/
structure Tracks (O : Set ContactId) (t : TouchEngine I × MouseAimController) : Prop where
  next : t.2.nextContactId ∈ t.2.contacts
  active : ∀ a, t.2.activeContactId = some a →
    a = t.2.other t.2.nextContactId ∧ t.1.state.isActive a = true
  pending : ∀ r, t.2.pendingRecenter = some r → t.2.activeContactId = none ∧
    r.contactId ∈ t.2.contacts ∧ r.previousContactId = t.2.other r.contactId
  known : ∀ d ∈ t.2.contacts, t.1.state.isActive d = true → t.2.activeContactId = some d ∨ d ∈ O

variable {O : Set ContactId} {eng e : TouchEngine I} {c d : MouseAimController}

omit [TouchInjector I] in
/-- Nothing was committed. -/
theorem Tracks.of_state (h : Tracks O (eng, c)) (he : e.state = eng.state) : Tracks O (e, c) := by
  obtain ⟨hnext, hactive, hpending, hknown⟩ := h
  refine ⟨hnext, ?_, hpending, ?_⟩
  · rw [he]
    exact hactive
  · rw [he]
    exact hknown

omit [TouchInjector I] in
/-- Nothing that is tracked changed. -/
theorem Tracks.of_fields (h : Tracks O (eng, c))
    (hdown : ∀ a, e.state.isActive a = eng.state.isActive a) (haim : d.aim = c.aim)
    (hsettings : d.settings = c.settings) (hactive : d.activeContactId = c.activeContactId)
    (hnext : d.nextContactId = c.nextContactId)
    (hpending : ∀ r, d.pendingRecenter = some r → ∃ q, c.pendingRecenter = some q ∧
      r.contactId = q.contactId ∧ r.previousContactId = q.previousContactId) : Tracks O (e, d) := by
  have hother : ∀ a, d.other a = c.other a := fun a => by rw [other, other, haim, hsettings]
  have hcontacts : d.contacts = c.contacts := by rw [contacts, contacts, haim, hsettings]
  refine ⟨?_, ?_, ?_, ?_⟩
  · rw [hcontacts, hnext]
    exact h.next
  · intro a ha
    rw [hother, hnext, hdown]
    exact h.active a (hactive ▸ ha)
  · intro r hr
    obtain ⟨q, hq, hcontact, hprevious⟩ := hpending r hr
    rw [hactive, hcontacts, hother, hcontact, hprevious]
    exact h.pending q hq
  · intro a ha hd
    rw [hactive]
    exact h.known a (hcontacts ▸ ha) (hdown a ▸ hd)

omit [TouchInjector I] in
/-- The contact `a` has taken over. -/
theorem Tracks.taken {a : ContactId} (ha : a ∈ c.contacts) (haim : d.aim = c.aim)
    (hsettings : d.settings = c.settings) (hactive : d.activeContactId = some a)
    (hnext : d.nextContactId = c.other a) (hpending : d.pendingRecenter = none)
    (hdown : e.state.isActive a = true)
    (hknown : ∀ b ∈ c.contacts, e.state.isActive b = true → b = a ∨ b ∈ O) : Tracks O (e, d) := by
  have hother : ∀ b, d.other b = c.other b := fun b => by rw [other, other, haim, hsettings]
  have hcontacts : d.contacts = c.contacts := by rw [contacts, contacts, haim, hsettings]
  refine ⟨?_, ?_, ?_, ?_⟩
  · rw [hcontacts, hnext]
    exact c.other_mem a
  · intro b hb
    obtain rfl := Option.some.inj (hactive.symm.trans hb)
    rw [hother, hnext, other_other ha]
    exact ⟨rfl, hdown⟩
  · intro r hr
    rw [hpending] at hr
    cases hr
  · intro b hb hd
    rw [hactive]
    rcases hknown b (hcontacts ▸ hb) hd with rfl | hO
    · exact .inl rfl
    · exact .inr hO

omit [TouchInjector I] in
/-- The controller has stopped, with the contacts in `O` still down. -/
theorem Tracks.idle (hnext : c.nextContactId ∈ c.contacts) (haim : d.aim = c.aim)
    (hsettings : d.settings = c.settings) (hsame : d.nextContactId = c.nextContactId)
    (hactive : d.activeContactId = none) (hpending : d.pendingRecenter = none)
    (hknown : ∀ b ∈ c.contacts, e.state.isActive b = true → b ∈ O) : Tracks O (e, d) := by
  have hcontacts : d.contacts = c.contacts := by rw [contacts, contacts, haim, hsettings]
  refine ⟨?_, ?_, ?_, ?_⟩
  · rw [hcontacts, hsame]
    exact hnext
  · intro a ha
    rw [hactive] at ha
    cases ha
  · intro r hr
    rw [hpending] at hr
    cases hr
  · intro b hb hd
    exact .inr (hknown b (hcontacts ▸ hb) hd)

/-! ### Calls that keep track -/

theorem applyResidual_tracks {a : ContactId} (dx dy : ℤ) (ha : c.activeContactId = some a)
    (h : Tracks O (eng, c)) :
    wp (applyResidual a dx dy) (fun _ t => Tracks O t) (fun _ t => Tracks O t) (eng, c) := by
  simp only [applyResidual, wp_bind, wp_get, wp_ite, wp_onEngine, wp_pure]
  split
  · refine wp_mono (moveContact_commits _ (h.active a ha).2) (fun _ e he => ?_) fun _ e he => ?_
    · exact h.of_fields he rfl rfl rfl rfl fun r hr => ⟨r, hr, rfl, rfl⟩
    · exact h.of_state he
  · exact h

theorem activate_tracks (now : ℕ) (h : Tracks O (eng, c)) :
    wp (activate now) (fun _ t => Tracks O t) (fun _ t => Tracks O t) (eng, c) := by
  simp only [activate, wp_bind, wp_get, wp_ite, wp_pure, wp_onEngine, wp_update]
  split
  · exact h
  · next hidle =>
    obtain ⟨hactive, hpending⟩ := isActive_eq_false.mp (Bool.not_eq_true _ ▸ hidle)
    refine wp_mono (beginContact_commits _ _) (fun _ e he => ?_) fun _ e he => h.of_state he
    refine .taken primary_mem rfl rfl rfl (by simp [other]) hpending (by simp [he]) ?_
    intro b hb hdown
    rw [he] at hdown
    split at hdown
    · next hprimary => exact .inl hprimary.symm
    · refine .inr ((h.known b hb hdown).resolve_left ?_)
      simp [hactive]

theorem tick_tracks (now : ℕ) (h : Tracks O (eng, c)) :
    wp (tick now) (fun _ t => Tracks O t) (fun _ t => Tracks O t) (eng, c) := by
  simp only [tick, wp_bind, wp_get]
  split
  · next r hr =>
    obtain ⟨hactive, hmem, hprevious⟩ := h.pending r hr
    have hnone : c.activeContactId = none := hactive
    simp only [wp_ite, wp_pure, wp_bind, wp_onEngine, wp_update]
    split
    · exact h
    · refine wp_mono (beginContact_commits _ _) (fun _ e he => ?_) fun _ e he => h.of_state he
      refine applyResidual_tracks _ _ rfl ?_
      refine .taken hmem rfl rfl rfl hprevious rfl (by simp [he]) ?_
      intro b hb hdown
      rw [he] at hdown
      split at hdown
      · next hb => exact .inl hb.symm
      · refine .inr ((h.known b hb hdown).resolve_left ?_)
        simp [hnone]
  · split
    · next interval a _ ha =>
      simp only [wp_ite, wp_pure]
      split
      · exact h
      · split
        · exact h
        · simp only [wp_bind, wp_onEngine, wp_update, wp_pure]
          refine wp_mono (moveContact_commits _ (h.active a ha).2) (fun _ e he => ?_)
            fun _ e he => h.of_state he
          exact h.of_fields he rfl rfl rfl rfl fun r hr => ⟨r, hr, rfl, rfl⟩
    · exact h

theorem recenter_tracks {a : ContactId} (p : Point) (dx dy : ℤ) (now : ℕ)
    (ha : c.activeContactId = some a) (hpending : c.pendingRecenter = none)
    (h : Tracks O (eng, c)) :
    wp (recenter a p dx dy now) (fun _ t => Tracks O t) (fun _ t => Tracks O t) (eng, c) := by
  obtain ⟨rfl, hdown⟩ := h.active a ha
  have hmem : c.nextContactId ∈ c.contacts := h.next
  -- of the two contacts, one is tracked, and the other one is known before
  have hknown : ∀ b ∈ c.contacts, c.other c.nextContactId ≠ b → eng.state.isActive b = true →
      b ∈ O := by
    intro b hb hne hbdown
    refine (h.known b hb hbdown).resolve_left ?_
    rw [show (eng, c).2.activeContactId = c.activeContactId from rfl, ha]
    exact fun heq => hne (Option.some.inj heq)
  simp only [recenter, wp_bind, wp_get, wp_ite, wp_onEngine, wp_update, wp_pure]
  split
  · refine wp_mono (handOver_commits _ _ _ _) (fun _ e he => ?_) fun _ e he => h.of_state he
    refine wp_mono (applyResidual_tracks _ _ rfl (.taken hmem rfl rfl rfl rfl hpending ?_ ?_))
      (fun _ t ht => ?_) fun _ _ ht => ht
    · rw [he, if_neg (other_ne hmem), if_pos rfl]
    · intro b hb hbdown
      rw [he] at hbdown
      split_ifs at hbdown with hold hnew
      · exact .inl hnew.symm
      · exact .inr (hknown b hb hold hbdown)
    · exact ht.of_fields (fun _ => rfl) rfl rfl rfl rfl fun r hr => ⟨r, hr, rfl, rfl⟩
  · refine wp_mono (endContact_commits _) (fun _ e he => ?_) fun _ e he => h.of_state he
    refine ⟨hmem, by simp, ?_, ?_⟩
    · rintro r ⟨⟩
      exact ⟨rfl, hmem, rfl⟩
    · intro b hb hbdown
      rw [he] at hbdown
      split_ifs at hbdown with hold
      exact .inr (hknown b hb hold hbdown)

theorem moveBy_tracks (delta : MouseAimDelta) (now : ℕ) (h : Tracks O (eng, c)) :
    wp (moveBy delta now) (fun _ t => Tracks O t) (fun _ t => Tracks O t) (eng, c) := by
  simp only [moveBy, wp_bind, wp_get, wp_ite, wp_pure]
  split
  · exact h
  simp only [wp_update]
  generalize hscaled : (c.scaledDelta delta).2 = scaled
  obtain ⟨x, y, hxy⟩ : ∃ x y, scaled = { c with carryX := x, carryY := y } :=
    ⟨_, _, hscaled ▸ c.scaledDelta_fields delta⟩
  have hs : Tracks O (eng, scaled) := by
    subst hxy
    exact h.of_fields (fun _ => rfl) rfl rfl rfl rfl fun r hr => ⟨r, hr, rfl, rfl⟩
  have hactive : scaled.activeContactId = c.activeContactId := by rw [hxy]
  have hpending : scaled.pendingRecenter = c.pendingRecenter := by rw [hxy]
  split
  · next r hr =>
    simp only [wp_bind, wp_update]
    refine tick_tracks now (hs.of_fields (fun _ => rfl) rfl rfl rfl rfl fun q hq => ?_)
    exact ⟨r, hpending.trans hr, by cases hq; simp⟩
  · next hnone =>
    split
    · exact hs
    · next a ha =>
      split
      · exact hs
      · simp only [wp_ite, wp_pure, wp_bind, wp_onEngine, wp_update]
        split
        · exact hs
        split
        · exact recenter_tracks _ _ _ now (hactive.trans ha) (hpending.trans hnone) hs
        · refine wp_mono (moveContact_commits _ (h.active a ha).2) (fun _ e he => ?_)
            fun _ e he => hs.of_state he
          exact hs.of_fields he rfl rfl rfl rfl fun r hr => ⟨r, hr, rfl, rfl⟩

omit [TouchInjector I] in
theorem setAdsActive_tracks (active : Bool) (h : Tracks O (eng, c)) :
    Tracks O (eng, c.setAdsActive active) := by
  obtain ⟨haim, hsettings, hactive, hnext, hpending⟩ := c.setAdsActive_fields active
  exact h.of_fields (fun _ => rfl) haim hsettings hactive hnext
    fun r hr => ⟨r, hpending ▸ hr, rfl, rfl⟩

/-! ### Releases -/

/-- The injector accepts the frame that releases the tracked contact. -/
def LetGo (phase : TouchPhase) (t : TouchEngine I × MouseAimController) : Prop :=
  ∀ a p, t.2.activeContactId = some a → t.1.state.position a = some p →
    t.1.refuses (.single ⟨a, phase, p⟩) = false

/-- The injector does not refuse the release that the call submits, if it is one. -/
def LetsGo (t : TouchEngine I × MouseAimController) : AimCall → Prop
  | .deactivate | .toggle _ => LetGo .up t
  | .cancel => LetGo .cancel t
  | .activate _ | .moveBy _ _ | .tick _ | .setAdsActive _ => True

/-- What is left of a controller that stopped: `deactivate` and `cancel` end here. -/
def stopped (c : MouseAimController) : MouseAimController :=
  { c with
    activeContactId := none, pendingRecenter := none, adsActive := false, lastReaffirmAt := none
    carryX := 0, carryY := 0 }

omit [TouchInjector I] in
theorem Tracks.stopped (h : Tracks O (eng, c)) (ha : c.activeContactId = none)
    (hdown : e.state = eng.state) : Tracks O (e, c.stopped) := by
  refine .idle h.next rfl rfl rfl rfl rfl fun b hb hbdown => ?_
  rw [hdown] at hbdown
  refine (h.known b hb hbdown).resolve_left ?_
  simp [ha]

omit [TouchInjector I] in
/-- The tracked contact was released. -/
theorem Tracks.released {a : ContactId} (h : Tracks O (eng, c)) (ha : c.activeContactId = some a)
    (hdown : ∀ b, e.state.isActive b = if a = b then false else eng.state.isActive b) :
    Tracks O (e, c.stopped) := by
  refine .idle h.next rfl rfl rfl rfl rfl fun b hb hbdown => ?_
  rw [hdown] at hbdown
  split_ifs at hbdown with hne
  refine (h.known b hb hbdown).resolve_left ?_
  rw [show (eng, c).2.activeContactId = c.activeContactId from rfl, ha]
  exact fun heq => hne (Option.some.inj heq)

theorem deactivate_tracks (h : Tracks O (eng, c)) (hgo : LetGo .up (eng, c)) :
    wp deactivate (fun _ t => Tracks O t) (fun _ _ => False) (eng, c) := by
  simp only [deactivate, wp_bind, wp_get, wp_update]
  cases ha : c.activeContactId with
  | none => exact h.stopped ha rfl
  | some a =>
    have hdown : eng.state.isActive a = true := (h.active a ha).2
    obtain ⟨p, hp⟩ := Option.isSome_iff_exists.mp (eng.state.isActive_eq a ▸ hdown)
    simp only [hdown, if_true, wp_bind, wp_onEngine, wp_pure, endContact, wp_get, hp]
    refine wp_mono (release_commits ?_ rfl (hgo a p ha hp)) (fun _ e he => ?_) fun _ _ he => he
    · simp [TouchEvent.Fits, hdown]
    · exact h.released ha he

theorem cancel_tracks (h : Tracks O (eng, c)) (hgo : LetGo .cancel (eng, c)) :
    wp cancel (fun _ t => Tracks O t) (fun _ _ => False) (eng, c) := by
  simp only [cancel, wp_bind, wp_get, wp_update]
  cases ha : c.activeContactId with
  | none => exact h.stopped ha rfl
  | some a =>
    have hdown : eng.state.isActive a = true := (h.active a ha).2
    obtain ⟨p, hp⟩ := Option.isSome_iff_exists.mp (eng.state.isActive_eq a ▸ hdown)
    simp only [hp, wp_bind, wp_onEngine, wp_pure, cancelContact]
    refine wp_mono (release_commits ?_ rfl (hgo a p ha hp)) (fun _ e he => ?_) fun _ _ he => he
    · simp [TouchEvent.Fits, hdown]
    · exact h.released ha he

omit [TouchInjector I] in
/-- A controller that tracks nothing, whatever is down. -/
theorem Tracks.forgotten (h : Tracks O (eng, c)) (haim : d.aim = c.aim)
    (hsettings : d.settings = c.settings) (hnext : d.nextContactId = c.nextContactId)
    (hactive : d.activeContactId = none) (hpending : d.pendingRecenter = none) :
    Tracks Set.univ (e, d) :=
  .idle h.next haim hsettings hnext hactive hpending fun _ _ _ => trivial

/-- **A refused `deactivate` leaves its contact down, and untracked.** -/
theorem deactivate_refused {a : ContactId} (h : Tracks O (eng, c)) (ha : c.activeContactId = some a) :
    wp deactivate (fun _ _ => True)
      (fun _ t => t.1.state = eng.state ∧ t.2 = { c with activeContactId := none }) (eng, c) := by
  have hdown : eng.state.isActive a = true := (h.active a ha).2
  simp only [deactivate, wp_bind, wp_get, wp_update, ha, hdown, if_true, wp_onEngine, wp_pure]
  exact wp_mono (endContact_commits a) (fun _ _ _ => trivial) fun _ _ he => ⟨he, trivial⟩

/-- **A refused `cancel` leaves its contact down, and untracked.** -/
theorem cancel_refused :
    wp cancel (fun _ _ => True) (fun _ t => t.1.state = eng.state ∧
      t.2 = { c with activeContactId := none, pendingRecenter := none }) (eng, c) := by
  simp only [cancel, wp_bind, wp_get, wp_update]
  split
  · split
    · simp only [wp_bind, wp_onEngine, wp_pure]
      exact wp_mono (submit_commits _) (fun _ _ _ => trivial) fun _ _ he => ⟨he, trivial⟩
    · exact trivial
  · exact trivial

/-- Whatever happens, only contacts that are down are tracked. -/
theorem release_forgets (h : Tracks O (eng, c)) :
    wp deactivate (fun _ t => Tracks Set.univ t) (fun _ t => Tracks Set.univ t) (eng, c) := by
  simp only [deactivate, wp_bind, wp_get, wp_update]
  cases ha : c.activeContactId with
  | none => exact h.forgotten rfl rfl rfl rfl rfl
  | some a =>
    have hpending : c.pendingRecenter = none := by
      refine Option.eq_none_iff_forall_ne_some.mpr fun r hr => ?_
      have hnone := (h.pending r hr).1
      rw [show (eng, c).2.activeContactId = c.activeContactId from rfl, ha] at hnone
      cases hnone
    simp only [wp_ite, wp_bind, wp_onEngine, wp_pure]
    split
    · exact wp_mono wp_true (fun _ _ _ => h.forgotten rfl rfl rfl rfl rfl)
        fun _ _ _ => h.forgotten rfl rfl rfl rfl hpending
    · exact h.forgotten rfl rfl rfl rfl rfl

theorem cancel_forgets (h : Tracks O (eng, c)) :
    wp cancel (fun _ t => Tracks Set.univ t) (fun _ t => Tracks Set.univ t) (eng, c) := by
  simp only [cancel, wp_bind, wp_get, wp_update]
  split
  · split
    · simp only [wp_bind, wp_onEngine, wp_pure]
      exact wp_mono wp_true (fun _ _ _ => h.forgotten rfl rfl rfl rfl rfl)
        fun _ _ _ => h.forgotten rfl rfl rfl rfl rfl
    · exact h.forgotten rfl rfl rfl rfl rfl
  · exact h.forgotten rfl rfl rfl rfl rfl

/-! ### Runs -/

/-- One call keeps track, if the release it may submit does. -/
theorem perform_keeps {call : AimCall} (h : Tracks O (eng, c))
    (hdeactivate : call = .deactivate ∨ (∃ now, call = .toggle now) →
      wp deactivate (fun _ t => Tracks O t) (fun _ t => Tracks O t) (eng, c))
    (hcancel : call = .cancel →
      wp cancel (fun _ t => Tracks O t) (fun _ t => Tracks O t) (eng, c)) :
    wp (perform call) (fun _ t => Tracks O t) (fun _ t => Tracks O t) (eng, c) := by
  cases call with
  | activate now => exact (wp_map _ _).mpr (activate_tracks now h)
  | toggle now =>
    have hrelease := hdeactivate (.inr ⟨now, rfl⟩)
    refine (wp_map _ _).mpr ?_
    simp only [toggle, wp_bind, wp_get, wp_ite]
    split
    · exact hrelease
    · exact activate_tracks now h
  | moveBy delta now => exact (wp_map _ _).mpr (moveBy_tracks delta now h)
  | tick now => exact (wp_map _ _).mpr (tick_tracks now h)
  | setAdsActive active => exact setAdsActive_tracks active h
  | deactivate => exact (wp_map _ _).mpr (hdeactivate (.inl rfl))
  | cancel => exact (wp_map _ _).mpr (hcancel rfl)

/-- **Unless it is a refused release, a call keeps track of what it kept track of.** -/
theorem perform_tracks {call : AimCall} (h : Tracks O (eng, c)) (hgo : LetsGo (eng, c) call) :
    wp (perform call) (fun _ t => Tracks O t) (fun _ t => Tracks O t) (eng, c) := by
  refine perform_keeps h ?_ ?_
  · intro hcall
    have hup : LetGo .up (eng, c) := by rcases hcall with rfl | ⟨now, rfl⟩ <;> exact hgo
    exact wp_mono (deactivate_tracks h hup) (fun _ _ ht => ht) fun _ _ hf => hf.elim
  · rintro rfl
    exact wp_mono (cancel_tracks h hgo) (fun _ _ ht => ht) fun _ _ hf => hf.elim

/-- **Whatever is refused, what is tracked is down.** -/
theorem perform_tracks_univ (call : AimCall) (h : Tracks Set.univ (eng, c)) :
    wp (perform call) (fun _ t => Tracks Set.univ t) (fun _ t => Tracks Set.univ t) (eng, c) :=
  perform_keeps h (fun _ => release_forgets h) fun _ => cancel_forgets h

theorem wp_attempted {call : AimCall} {P : TouchEngine I × MouseAimController → Prop}
    {R : TouchEngineError → TouchEngine I × MouseAimController → Prop}
    {t : TouchEngine I × MouseAimController}
    (h : wp (perform call) (fun _ t => P t) (fun _ t => P t) t) :
    wp (attempted call) (fun _ t => P t) R t := by
  simpa only [attempted, wp_bind, wp_attempt, wp_pure] using h

theorem run_tracks {calls : List AimCall} {t : TouchEngine I × MouseAimController}
    (h : Tracks O t) (hgo : AllSteps attempted LetsGo calls t) :
    wp (runAll attempted calls) (fun _ t' => Tracks O t') (fun _ _ => False) t :=
  wp_runAll_of_allSteps (fun _ _ hlets ht => wp_attempted (perform_tracks ht hlets)) hgo h

theorem run_tracks_univ (calls : List AimCall) {t : TouchEngine I × MouseAimController}
    (h : Tracks Set.univ t) :
    wp (runAll attempted calls) (fun _ t' => Tracks Set.univ t') (fun _ _ => False) t :=
  wp_runAll (fun call _ ht => wp_attempted (perform_tracks_univ call ht)) calls h

omit [TouchInjector I] in
theorem new_tracks {aim : MouseAim} {settings : MouseAimSettings}
    (hnew : MouseAimController.new aim settings = .ok c)
    (hup : ∀ d ∈ c.contacts, eng.state.isActive d = false) : Tracks O (eng, c) := by
  unfold MouseAimController.new at hnew
  split_ifs at hnew
  obtain rfl := Except.ok.inj hnew
  refine ⟨.inr rfl, by simp, by simp, fun d hd hdown => ?_⟩
  have hdup := hup d hd
  rw [show (eng, _).1.state.isActive d = eng.state.isActive d from rfl, hdup] at hdown
  cases hdown

/-- A press of a contact that is up is only refused by the injector. -/
theorem beginContact_refused {a : ContactId} (p : Point) (ha : eng.state.isActive a = false) :
    wp (beginContact a p) (fun _ _ => True) (fun error _ => ∃ cause, error = .injection cause)
      eng := by
  have hfits : (⟨a, .down, p⟩ : TouchEvent).Fits eng.state := by simp [TouchEvent.Fits, ha]
  have hok := TouchState.validateFrame_eq_ok.mpr (TouchState.frameValid_single hfits)
  simp only [beginContact, submit, wp_bind, wp_get, hok, wp_zoom, wp_mapError, wp_modify]
  exact wp_mono wp_true (fun _ _ _ => trivial) fun cause _ _ => ⟨cause, rfl⟩

/-- While all its contacts are tracked, an activation is only refused by the injector. -/
theorem activate_refused (now : ℕ) (h : Tracks ∅ (eng, c)) :
    wp (activate now) (fun _ _ => True) (fun error _ => ∃ cause, error = .injection cause)
      (eng, c) := by
  simp only [activate, wp_bind, wp_get, wp_ite, wp_pure, wp_onEngine, wp_update]
  split
  · exact trivial
  · next hidle =>
    obtain ⟨hactive, -⟩ := isActive_eq_false.mp (Bool.not_eq_true _ ▸ hidle)
    refine beginContact_refused _ (Bool.eq_false_iff.mpr fun hdown => ?_)
    rcases h.known _ primary_mem hdown with htracked | hmem
    · rw [show (eng, c).2.activeContactId = c.activeContactId from rfl, hactive] at htracked
      cases htracked
    · exact hmem

/-- A controller that tracks nothing has nothing to release. -/
theorem retry_submits_nothing (hactive : c.activeContactId = none)
    (hpending : c.pendingRecenter = none) :
    deactivate (eng, c) = .ok .ignored (eng, c.stopped) ∧
      cancel (eng, c) = .ok false (eng, c.stopped) := by
  have hd : wp deactivate (fun r t => r = .ignored ∧ t = (eng, c.stopped)) (fun _ _ => False)
      (eng, c) := by
    simp [deactivate, hactive, hpending, stopped]
  have hc : wp cancel (fun r t => r = false ∧ t = (eng, c.stopped)) (fun _ _ => False)
      (eng, c) := by
    simp [cancel, hactive, hpending, stopped]
  obtain ⟨r, t, hr, rfl, rfl⟩ := wp_returns hd
  obtain ⟨r', t', hr', rfl, rfl⟩ := wp_returns hc
  exact ⟨hr, hr'⟩

/-- **What an aim controller tracks is down, whatever the injector refuses.**  Unless a release
is refused, it tracks everything of its own that is down, and only the injector can keep it
from being activated.  A refused release leaves the contact down; the controller does not track
it any more, and trying again submits nothing. -/
theorem tracked_contacts_are_down {aim : MouseAim} {settings : MouseAimSettings}
    (hnew : MouseAimController.new aim settings = .ok c)
    (hup : ∀ d ∈ c.contacts, eng.state.isActive d = false) (calls : List AimCall) :
    ∃ t, runAll attempted calls (eng, c) = .ok () t ∧
      (∀ a, t.2.activeContactId = some a →
        a ∈ t.2.contacts ∧ t.1.state.isActive a = true ∧
        (∀ error t', deactivate t = .error error t' → t'.1.state.isActive a = true ∧
          t'.2.activeContactId = none ∧ deactivate t' = .ok .ignored (t'.1, t'.2.stopped)) ∧
        (∀ error t', cancel t = .error error t' → t'.1.state.isActive a = true ∧
          t'.2.activeContactId = none ∧ cancel t' = .ok false (t'.1, t'.2.stopped))) ∧
      (AllSteps attempted LetsGo calls (eng, c) →
        (∀ a ∈ t.2.contacts, t.1.state.isActive a = true → t.2.activeContactId = some a) ∧
        ∀ now error t', activate now t = .error error t' → ∃ cause, error = .injection cause) := by
  have h₀ : ∀ O, Tracks O (eng, c) := fun _ => new_tracks hnew hup
  obtain ⟨_, ⟨e, d⟩, hrun, ht⟩ := wp_returns (run_tracks_univ calls (h₀ Set.univ))
  refine ⟨(e, d), hrun, ?_, ?_⟩
  · intro a ha
    have ha' : d.activeContactId = some a := ha
    obtain ⟨rfl, hdown⟩ := ht.active a ha
    have hpending : d.pendingRecenter = none := by
      refine Option.eq_none_iff_forall_ne_some.mpr fun r hr => ?_
      rw [(ht.pending r hr).1] at ha
      cases ha
    refine ⟨d.other_mem _, hdown, ?_, ?_⟩
    · intro error t' herror
      obtain ⟨hstate, hcontroller⟩ := wp_error (deactivate_refused ht ha') herror
      refine ⟨?_, ?_, (retry_submits_nothing ?_ ?_).1⟩
      · rw [hstate]
        exact hdown
      · rw [hcontroller]
      · rw [hcontroller]
      · rw [hcontroller]
        exact hpending
    · intro error t' herror
      obtain ⟨hstate, hcontroller⟩ := wp_error cancel_refused herror
      refine ⟨?_, ?_, (retry_submits_nothing ?_ ?_).2⟩
      · rw [hstate]
        exact hdown
      · rw [hcontroller]
      · rw [hcontroller]
      · rw [hcontroller]
  · intro hgo
    have htracks := wp_ok (run_tracks (h₀ ∅) hgo) hrun
    refine ⟨fun a ha hdown => (htracks.known a ha hdown).resolve_right (Set.notMem_empty a), ?_⟩
    intro now error t' herror
    exact wp_error (activate_refused now htracks) herror

end MouseAimController

/-! ### A refused release -/

/-- An injector that accepts some frames, and then refuses one. -/
structure RefusesOnce where
  accepted : ℕ
  refused : Bool

instance : TouchInjector RefusesOnce where
  inject _ := do
    let i ← get
    match i with
    | ⟨0, false⟩ =>
      set (⟨0, true⟩ : RefusesOnce)
      throw ⟨"injected failure", none⟩
    | ⟨0, true⟩ => pure ()
    | ⟨n + 1, refused⟩ => set (⟨n, refused⟩ : RefusesOnce)

namespace MouseAimController

theorem tracked_contacts_are_down_square :
    MouseAimController.new squareAim squareSettings = .ok squareController ∧
      ∃ t, runAll attempted [.activate 0, .cancel, .activate 1]
        (TouchEngine.new (RefusesOnce.mk 1 false), squareController) = .ok () t ∧
        ∀ a, t.2.activeContactId = some a → a ∈ t.2.contacts ∧ t.1.state.isActive a = true := by
  refine ⟨rfl, ?_⟩
  have hup : ∀ d ∈ squareController.contacts,
      (TouchEngine.new (RefusesOnce.mk 1 false)).state.isActive d = false := by
    intro d _
    rw [TouchState.isActive_eq]
    exact congrArg Option.isSome (TouchState.position_empty d)
  obtain ⟨t, hrun, hdown, -⟩ := tracked_contacts_are_down
    (show MouseAimController.new squareAim squareSettings = .ok squareController from rfl) hup
    [.activate 0, .cancel, .activate 1]
  exact ⟨t, hrun, fun a ha => ⟨(hdown a ha).1, (hdown a ha).2.1⟩⟩

/-- A refused `deactivate` leaves its contact down and untracked; a retry releases nothing,
and the next activation is rejected because the contact is still down. -/
theorem refused_release_is_forgotten :
    MouseAimController.new squareAim squareSettings = .ok squareController ∧
      ∃ u t, runAll attempted [.activate 0, .deactivate, .deactivate]
        (TouchEngine.new (RefusesOnce.mk 1 false), squareController) = .ok u t ∧
        decide (t.2.activeContactId = none ∧ t.1.state.isActive 1 = true ∧
          (match activate 1 t with
            | .ok _ _ => none
            | .error error _ => some error) = some (.invalidState (.contactAlreadyActive 1))) =
          true :=
  ⟨rfl, exists_of_returnsWith (by decide +kernel)⟩

end MouseAimController

end Wroid
