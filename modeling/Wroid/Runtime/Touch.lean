import Wroid.Lib.Fallible
import Wroid.Core.Geometry

/-!
# The touch engine

The core of `wroid-runtime`: contact transitions are grouped into frames, a frame is
validated against the last committed multitouch state, submitted to a persistent injector,
and committed only when the injector accepted it.

## Main definitions

* `TouchEvent`, `TouchFrame`, `TouchState` — transitions, frames, the committed contacts.
* `TouchInjector` — the transport a frame is handed to.
* `TouchEngine.submit`, `beginContact`, `moveContact`, `endContact`, `cancelAll`.
* `Recorder` — an injector that remembers the frames it was handed.
* `Contract` — what is known about an injector: an invariant tying it to the committed
  state, the frames it may be asked to send, and how it can fail.

## Main results

* `validateFrame_eq_ok` — which frames the engine accepts.
* `submit_spec` and the single-contact specifications after it.
* `cancelAll_spec` — after `cancelAll` no contact is down.
-/

namespace Wroid

open Lib

/-- Identifier of one logical finger; a `u16` in the code. -/
abbrev ContactId := ℕ

/-- Lifecycle transition of a contact. -/
inductive TouchPhase
  | down
  | move
  | up
  | cancel
  deriving DecidableEq, Repr

/-- One contact transition of a frame. -/
structure TouchEvent where
  contactId : ContactId
  phase : TouchPhase
  position : Point
  deriving DecidableEq, Repr

/-- Contact transitions submitted as one synchronized frame.  Whether the code keeps them
inline or on the heap cannot be observed. -/
structure TouchFrame where
  events : List TouchEvent
  deriving DecidableEq, Repr

/-- A frame of one transition. -/
def TouchFrame.single (event : TouchEvent) : TouchFrame := ⟨[event]⟩

@[simp] theorem TouchFrame.events_single (event : TouchEvent) :
    (TouchFrame.single event).events = [event] := rfl

/-- The frame has a transition of the contact `c`. -/
def TouchFrame.Mentions (frame : TouchFrame) (c : ContactId) : Prop :=
  ∃ e ∈ frame.events, e.contactId = c

instance (frame : TouchFrame) (c : ContactId) : Decidable (frame.Mentions c) :=
  inferInstanceAs (Decidable (∃ e ∈ frame.events, e.contactId = c))

@[simp] theorem TouchFrame.mentions_single (event : TouchEvent) (c : ContactId) :
    (TouchFrame.single event).Mentions c ↔ event.contactId = c := by
  simp [TouchFrame.Mentions]

/-- Failure of an injection backend; `source` is the text of the error it wraps. -/
structure TouchInjectionError where
  message : String
  source : Option String
  deriving DecidableEq, Repr

/-- Reasons for which the engine itself rejects a frame. -/
inductive TouchStateError
  | emptyFrame
  | duplicateContactInFrame (contactId : ContactId)
  | contactAlreadyActive (contactId : ContactId)
  | contactNotActive (contactId : ContactId)
  deriving DecidableEq, Repr

inductive TouchEngineError
  | invalidState (error : TouchStateError)
  | injection (error : TouchInjectionError)
  deriving DecidableEq, Repr

/-- A persistent transport for synchronized multitouch frames. -/
class TouchInjector (I : Type) where
  inject : TouchFrame → EStateM TouchInjectionError I Unit

/-! ### The committed state -/

/-- Last committed multitouch state. -/
structure TouchState where
  activeContacts : Std.ExtTreeMap ContactId Point
  deriving Inhabited

namespace TouchState

def empty : TouchState := ⟨{}⟩

def activeContactCount (st : TouchState) : ℕ := st.activeContacts.size

def isActive (st : TouchState) (c : ContactId) : Bool := st.activeContacts.contains c

def position (st : TouchState) (c : ContactId) : Option Point := st.activeContacts[c]?

@[simp] theorem position_empty (c : ContactId) : empty.position c = none := by
  simp [empty, position]

theorem isActive_eq (st : TouchState) (c : ContactId) :
    st.isActive c = (st.position c).isSome := by
  simp [isActive, position]

theorem ext_position {st st' : TouchState} (h : ∀ c, st.position c = st'.position c) :
    st = st' := by
  obtain ⟨m⟩ := st
  obtain ⟨m'⟩ := st'
  exact congrArg TouchState.mk (Std.ExtTreeMap.ext_getElem? h)

/-- One iteration of the validation loop for each event, `previous` being the events of the
frame already seen. -/
def validateEvents (st : TouchState) :
    List TouchEvent → List TouchEvent → Except TouchStateError Unit
  | _, [] => .ok ()
  | previous, event :: rest =>
    if previous.any fun p => p.contactId == event.contactId then
      .error (.duplicateContactInFrame event.contactId)
    else
      match event.phase with
      | .down =>
        if st.isActive event.contactId then .error (.contactAlreadyActive event.contactId)
        else validateEvents st (previous ++ [event]) rest
      | .move | .up | .cancel =>
        if st.isActive event.contactId then validateEvents st (previous ++ [event]) rest
        else .error (.contactNotActive event.contactId)

def validateFrame (st : TouchState) (frame : TouchFrame) : Except TouchStateError Unit :=
  if frame.events.isEmpty then .error .emptyFrame else st.validateEvents [] frame.events

/-- What one event of a committed frame does to the contacts. -/
def applyEvent (st : TouchState) (event : TouchEvent) : TouchState :=
  match event.phase with
  | .down | .move => ⟨st.activeContacts.insert event.contactId event.position⟩
  | .up | .cancel => ⟨st.activeContacts.erase event.contactId⟩

def applyFrame (st : TouchState) (frame : TouchFrame) : TouchState :=
  frame.events.foldl applyEvent st

end TouchState

/-- Where one event leaves its contact. -/
def TouchEvent.after (event : TouchEvent) : Option Point :=
  match event.phase with
  | .down | .move => some event.position
  | .up | .cancel => none

/-- An event fits the committed contacts: a `down` needs its contact up, the others down. -/
def TouchEvent.Fits (st : TouchState) (event : TouchEvent) : Prop :=
  st.isActive event.contactId = true ↔ event.phase ≠ .down

/-- The frames the engine accepts: not empty, one event a contact, each fitting. -/
structure TouchState.FrameValid (st : TouchState) (frame : TouchFrame) : Prop where
  nonempty : frame.events ≠ []
  nodup : (frame.events.map TouchEvent.contactId).Nodup
  fits : ∀ e ∈ frame.events, e.Fits st

namespace TouchState

theorem validateEvents_eq_ok {st : TouchState} {previous events : List TouchEvent} :
    st.validateEvents previous events = .ok () ↔
      (∀ e ∈ events, e.Fits st) ∧ (events.map TouchEvent.contactId).Nodup ∧
        ∀ e ∈ events, ∀ p ∈ previous, p.contactId ≠ e.contactId := by
  induction events generalizing previous with
  | nil => simp [validateEvents]
  | cons e events ih =>
    have hcons : (∀ e' ∈ events, ∀ p ∈ previous ++ [e], p.contactId ≠ e'.contactId) ↔
        e.contactId ∉ events.map TouchEvent.contactId ∧
          ∀ e' ∈ events, ∀ p ∈ previous, p.contactId ≠ e'.contactId := by
      simp only [List.mem_append, List.mem_singleton, List.mem_map]
      constructor
      · intro h
        exact ⟨fun ⟨e', he', heq⟩ => h e' he' e (Or.inr rfl) heq.symm,
          fun e' he' p hp => h e' he' p (Or.inl hp)⟩
      · rintro ⟨h₁, h₂⟩ e' he' p (hp | rfl)
        · exact h₂ e' he' p hp
        · exact fun heq => h₁ ⟨e', he', heq.symm⟩
    have hany : (previous.any fun p => p.contactId == e.contactId) = true ↔
        ¬ ∀ p ∈ previous, p.contactId ≠ e.contactId := by simp
    simp only [List.map_cons, List.nodup_cons, List.forall_mem_cons]
    by_cases hseen : ∀ p ∈ previous, p.contactId ≠ e.contactId
    · have hstep : st.validateEvents previous (e :: events) = .ok () ↔
          e.Fits st ∧ st.validateEvents (previous ++ [e]) events = .ok () := by
        rw [validateEvents, if_neg (by rw [hany]; simpa using hseen), TouchEvent.Fits]
        rcases e.phase with _ | _ | _ | _ <;> by_cases hact : st.isActive e.contactId <;>
          simp [hact]
      rw [hstep, ih, hcons]
      tauto
    · rw [validateEvents, if_pos (hany.mpr hseen)]
      simp [hseen]

/-- **The frames `validate_frame` accepts.** -/
theorem validateFrame_eq_ok {st : TouchState} {frame : TouchFrame} :
    st.validateFrame frame = .ok () ↔ st.FrameValid frame := by
  unfold validateFrame
  constructor
  · intro h
    split at h
    · cases h
    · next hne =>
      obtain ⟨hfits, hnodup, -⟩ := validateEvents_eq_ok.mp h
      exact ⟨by simpa using hne, hnodup, hfits⟩
  · rintro ⟨hne, hnodup, hfits⟩
    rw [if_neg (by simpa using hne)]
    exact validateEvents_eq_ok.mpr ⟨hfits, hnodup, by simp⟩

theorem frameValid_single {st : TouchState} {e : TouchEvent} (h : e.Fits st) :
    st.FrameValid (.single e) :=
  ⟨by simp, by simp, by simpa using h⟩

theorem position_applyEvent (st : TouchState) (e : TouchEvent) (c : ContactId) :
    (st.applyEvent e).position c = if e.contactId = c then e.after else st.position c := by
  unfold applyEvent TouchEvent.after position
  rcases e.phase with _ | _ | _ | _ <;>
    simp [Std.ExtTreeMap.getElem?_insert, Std.ExtTreeMap.getElem?_erase]

@[simp] theorem applyFrame_single (st : TouchState) (e : TouchEvent) :
    st.applyFrame (.single e) = st.applyEvent e := rfl

/-- A contact no event of the frame mentions stays where it is. -/
theorem position_applyFrame_of_not_mentions {st : TouchState} {frame : TouchFrame}
    {c : ContactId} (h : ¬ frame.Mentions c) :
    (st.applyFrame frame).position c = st.position c := by
  obtain ⟨events⟩ := frame
  simp only [TouchFrame.Mentions, not_exists, not_and, applyFrame] at h ⊢
  induction events generalizing st with
  | nil => rfl
  | cons e events ih =>
    rw [List.foldl_cons, ih fun e' he' => h e' (List.mem_cons_of_mem e he'), position_applyEvent,
      if_neg (h e List.mem_cons_self)]

/-- In a frame with one event a contact, that event says where the contact ends up. -/
theorem position_applyFrame_of_mem {st : TouchState} {frame : TouchFrame}
    (hnodup : (frame.events.map TouchEvent.contactId).Nodup) {e : TouchEvent}
    (he : e ∈ frame.events) : (st.applyFrame frame).position e.contactId = e.after := by
  obtain ⟨events⟩ := frame
  simp only [applyFrame] at hnodup he ⊢
  induction events generalizing st with
  | nil => simp at he
  | cons e' events ih =>
    rw [List.map_cons, List.nodup_cons] at hnodup
    rw [List.foldl_cons]
    rcases List.mem_cons.mp he with rfl | he
    · have hnot : ¬ (⟨events⟩ : TouchFrame).Mentions e.contactId := fun ⟨d, hd, heq⟩ =>
        hnodup.1 (heq ▸ List.mem_map_of_mem hd)
      have : ((st.applyEvent e).applyFrame ⟨events⟩).position e.contactId =
          (st.applyEvent e).position e.contactId := position_applyFrame_of_not_mentions hnot
      rw [applyFrame] at this
      rw [this, position_applyEvent, if_pos rfl]
    · exact ih hnodup.2 he

end TouchState

/-! ### The engine -/

/-- Applies validated frames to an injector, committing each only after it was accepted. -/
structure TouchEngine (I : Type) where
  injector : I
  state : TouchState

namespace TouchEngine

variable {I : Type} [TouchInjector I]

def new (injector : I) : TouchEngine I := ⟨injector, .empty⟩

/-- A computation on an engine and its injector. -/
abbrev EngineM (I : Type) := EStateM TouchEngineError (TouchEngine I)

def submit (frame : TouchFrame) : EngineM I Unit := do
  let engine ← get
  match engine.state.validateFrame frame with
  | .error error => throw (.invalidState error)
  | .ok () =>
    zoom injector (fun i e => { e with injector := i })
      (mapError .injection (TouchInjector.inject frame))
    modify fun e => { e with state := e.state.applyFrame frame }

def beginContact (contactId : ContactId) (position : Point) : EngineM I Unit :=
  submit (.single ⟨contactId, .down, position⟩)

def moveContact (contactId : ContactId) (position : Point) : EngineM I Unit :=
  submit (.single ⟨contactId, .move, position⟩)

def endContact (contactId : ContactId) : EngineM I Unit := do
  match (← get).state.position contactId with
  | none => throw (.invalidState (.contactNotActive contactId))
  | some position => submit (.single ⟨contactId, .up, position⟩)

/-- The single `cancel` frame that joysticks and aim controllers release a contact with. -/
def cancelContact (contactId : ContactId) (position : Point) : EngineM I Unit :=
  submit (.single ⟨contactId, .cancel, position⟩)

/-- The frame cancelling every active contact, in the order of their identifiers. -/
def cancelFrame (st : TouchState) : TouchFrame :=
  ⟨st.activeContacts.toList.map fun p => ⟨p.1, .cancel, p.2⟩⟩

/-- Cancels every active contact in one frame; `false` when there was nothing to cancel. -/
def cancelAll : EngineM I Bool := do
  let engine ← get
  if engine.state.activeContactCount = 0 then return false
  submit (cancelFrame engine.state)
  return true

end TouchEngine

/-! ### The recorder -/

/-- An injector, and the frames it was handed. -/
structure Recorder (I : Type) where
  inner : I
  submitted : List TouchFrame

instance {I : Type} [TouchInjector I] : TouchInjector (Recorder I) where
  inject frame := do
    modify fun r => { r with submitted := r.submitted ++ [frame] }
    zoom Recorder.inner (fun i r => { r with inner := i }) (TouchInjector.inject frame)

def Recorder.new {I : Type} (injector : I) : Recorder I := ⟨injector, []⟩

/-! ### What is known about an injector -/

/-- What the development assumes about an injector: an invariant that ties it to the
committed contacts, the frames it may be asked to send, and how it fails on them. -/
structure Contract (I : Type) [TouchInjector I] where
  Inv : TouchState → I → Prop
  Allowed : TouchFrame → Prop
  Failed : TouchState → TouchInjectionError → Prop
  inject_spec : ∀ st i frame, Inv st i → st.FrameValid frame → Allowed frame →
    wp (TouchInjector.inject frame) (fun _ i' => Inv (st.applyFrame frame) i')
      (fun e _ => Failed st e) i

namespace Contract

variable {I : Type} [TouchInjector I] (K : Contract I)

/-- The engine and its injector are in a state the contract describes. -/
def Holds (e : TouchEngine I) : Prop := K.Inv e.state e.injector

/-- The engine failed, and only because the injector did, in a way the contract allows. -/
def Fails (err : TouchEngineError) (e : TouchEngine I) : Prop :=
  ∃ cause, err = .injection cause ∧ K.Failed e.state cause

/-- The contract lets every single event of the contact `c` at `p` through. -/
def AllowsAt (c : ContactId) (p : Point) : Prop :=
  ∀ phase, K.Allowed (.single ⟨c, phase, p⟩)

/-- The frame that hands a touch over from the contact `d` at `q` to the contact `c` at `p`. -/
def handOverFrame (c : ContactId) (p : Point) (d : ContactId) (q : Point) : TouchFrame :=
  ⟨[⟨c, .down, p⟩, ⟨d, .up, q⟩]⟩

/-- The contract lets the contacts `cs` be used on the pixels `places`. -/
structure AllowsOn (cs : Set ContactId) (places : Set Point) : Prop where
  single : ∀ c ∈ cs, ∀ p ∈ places, K.AllowsAt c p
  handOver : ∀ c ∈ cs, ∀ d ∈ cs, c ≠ d → ∀ p ∈ places, ∀ q ∈ places,
    K.Allowed (handOverFrame c p d q)

end Contract

/-- An injector that accepts every frame. -/
def NeverFails (I : Type) [TouchInjector I] : Prop :=
  ∀ (frame : TouchFrame) (i : I), ∃ i', TouchInjector.inject frame i = .ok () i'

/-- The injector that accepts every frame and forgets it. -/
instance : TouchInjector Unit := ⟨fun _ => pure ()⟩

theorem neverFails_unit : NeverFails Unit := fun _ i => ⟨i, rfl⟩

/-- The contract of an injector that accepts every frame: nothing can go wrong. -/
def Contract.ofNeverFails {I : Type} [TouchInjector I] (h : NeverFails I) : Contract I where
  Inv _ _ := True
  Allowed _ := True
  Failed _ _ := False
  inject_spec _ i frame _ _ _ := by
    obtain ⟨i', hi⟩ := h frame i
    simp [wp, hi]

/-- Nothing is known about the injector. -/
def Contract.unknown (I : Type) [TouchInjector I] : Contract I where
  Inv _ _ := True
  Allowed _ := True
  Failed _ _ := True
  inject_spec _ _ _ _ _ _ := wp_true

namespace TouchEngine

variable {I : Type} [TouchInjector I] {K : Contract I} {eng : TouchEngine I}

/-- **A frame the engine accepts** is committed, unless the injector refuses it. -/
theorem submit_spec {frame : TouchFrame} (hK : K.Holds eng) (hv : eng.state.FrameValid frame)
    (ha : K.Allowed frame) :
    wp (submit frame) (fun _ e => K.Holds e ∧ e.state = eng.state.applyFrame frame) K.Fails eng := by
  have hok := TouchState.validateFrame_eq_ok.mpr hv
  simp only [submit, wp_bind, wp_get, hok, wp_zoom, wp_mapError, wp_modify]
  exact wp_mono (K.inject_spec _ _ frame hK hv ha) (fun _ _ h => ⟨h, trivial⟩)
    fun e _ h => ⟨e, rfl, h⟩

/-- What a frame of one event does to the committed contacts. -/
theorem submit_single_spec {event : TouchEvent} (hK : K.Holds eng) (hfits : event.Fits eng.state)
    (ha : K.Allowed (.single event)) :
    wp (submit (.single event)) (fun _ e => K.Holds e ∧ ∀ d, e.state.position d =
      if event.contactId = d then event.after else eng.state.position d) K.Fails eng := by
  refine wp_mono (submit_spec hK (TouchState.frameValid_single hfits) ha) ?_ fun _ _ h => h
  rintro - e ⟨hK', hst⟩
  exact ⟨hK', fun d => by rw [hst, TouchState.applyFrame_single, TouchState.position_applyEvent]⟩

theorem beginContact_spec {c : ContactId} {p : Point} (hK : K.Holds eng)
    (hc : eng.state.position c = none) (ha : K.AllowsAt c p) :
    wp (beginContact c p) (fun _ e => K.Holds e ∧ ∀ d, e.state.position d =
      if c = d then some p else eng.state.position d) K.Fails eng :=
  submit_single_spec hK (by simp [TouchEvent.Fits, TouchState.isActive_eq, hc]) (ha .down)

theorem moveContact_spec {c : ContactId} {p : Point} (hK : K.Holds eng)
    (hc : eng.state.position c ≠ none) (ha : K.AllowsAt c p) :
    wp (moveContact c p) (fun _ e => K.Holds e ∧ ∀ d, e.state.position d =
      if c = d then some p else eng.state.position d) K.Fails eng :=
  submit_single_spec hK
    (by simp [TouchEvent.Fits, TouchState.isActive_eq, Option.isSome_iff_ne_none, hc]) (ha .move)

theorem cancelContact_spec {c : ContactId} {p : Point} (hK : K.Holds eng)
    (hc : eng.state.position c ≠ none) (ha : K.AllowsAt c p) :
    wp (cancelContact c p) (fun _ e => K.Holds e ∧ ∀ d, e.state.position d =
      if c = d then none else eng.state.position d) K.Fails eng :=
  submit_single_spec hK
    (by simp [TouchEvent.Fits, TouchState.isActive_eq, Option.isSome_iff_ne_none, hc]) (ha .cancel)

theorem endContact_spec {c : ContactId} {p : Point} (hK : K.Holds eng)
    (hc : eng.state.position c = some p) (ha : K.AllowsAt c p) :
    wp (endContact c) (fun _ e => K.Holds e ∧ ∀ d, e.state.position d =
      if c = d then none else eng.state.position d) K.Fails eng := by
  simp only [endContact, wp_bind, wp_get, hc]
  exact submit_single_spec hK (by simp [TouchEvent.Fits, TouchState.isActive_eq, hc]) (ha .up)

/-- A frame that hands a touch over to another contact. -/
theorem submit_handOver_spec {c d : ContactId} {p q : Point} (hK : K.Holds eng) (hcd : c ≠ d)
    (hc : eng.state.position c = none) (hd : eng.state.position d ≠ none)
    (ha : K.Allowed (Contract.handOverFrame c p d q)) :
    wp (submit (Contract.handOverFrame c p d q)) (fun _ e => K.Holds e ∧ ∀ x, e.state.position x =
      if d = x then none else if c = x then some p else eng.state.position x) K.Fails eng := by
  have hv : eng.state.FrameValid (Contract.handOverFrame c p d q) := by
    refine ⟨by simp [Contract.handOverFrame], by simp [Contract.handOverFrame, hcd], ?_⟩
    simp only [Contract.handOverFrame, List.mem_cons, List.not_mem_nil, or_false,
      TouchEvent.Fits, TouchState.isActive_eq, Option.isSome_iff_ne_none]
    rintro e (rfl | rfl) <;> simp [hc, hd]
  refine wp_mono (submit_spec hK hv ha) ?_ fun _ _ h => h
  rintro - e ⟨hK', hst⟩
  refine ⟨hK', fun x => ?_⟩
  simp only [hst, Contract.handOverFrame, TouchState.applyFrame, List.foldl_cons, List.foldl_nil,
    TouchState.position_applyEvent]
  rfl

theorem cancelFrame_valid {st : TouchState} (h : st.activeContactCount ≠ 0) :
    st.FrameValid (cancelFrame st) where
  nonempty := by
    intro hnil
    apply h
    have : st.activeContacts.toList = [] := by simpa [cancelFrame] using hnil
    rw [TouchState.activeContactCount, ← Std.ExtTreeMap.length_toList, this, List.length_nil]
  nodup := by
    have := Std.ExtTreeMap.nodup_keys (t := st.activeContacts)
    rw [← Std.ExtTreeMap.map_fst_toList_eq_keys] at this
    simpa [cancelFrame, Function.comp_def] using this
  fits := by
    intro e he
    simp only [cancelFrame, List.mem_map] at he
    obtain ⟨⟨c, p⟩, hmem, rfl⟩ := he
    have := Std.ExtTreeMap.mem_toList_iff_getElem?_eq_some.mp hmem
    simp [TouchEvent.Fits, TouchState.isActive_eq, TouchState.position, this]

theorem mentions_cancelFrame {st : TouchState} {c : ContactId} :
    (cancelFrame st).Mentions c ↔ st.position c ≠ none := by
  rw [Option.ne_none_iff_exists']
  simp [TouchFrame.Mentions, cancelFrame, TouchState.position]

/-- **`cancel_all` leaves no contact down.** -/
theorem cancelAll_spec (hK : K.Holds eng) (ha : K.Allowed (cancelFrame eng.state)) :
    wp cancelAll (fun _ e => K.Holds e ∧ ∀ d, e.state.position d = none) K.Fails eng := by
  simp only [cancelAll, wp_bind, wp_get, wp_ite]
  split
  case isTrue hzero =>
    refine ⟨hK, fun d => ?_⟩
    have hempty : eng.state.activeContacts.isEmpty = true := by
      rw [Std.ExtTreeMap.isEmpty_eq_size_beq_zero]
      simpa [TouchState.activeContactCount] using hzero
    simp [TouchState.position, Std.ExtTreeMap.isEmpty_iff.mp hempty]
  case isFalse hne =>
    simp only [wp_pure]
    refine wp_mono (submit_spec hK (cancelFrame_valid hne) ha) ?_ fun _ _ h => h
    rintro - e ⟨hK', hst⟩
    refine ⟨hK', fun d => ?_⟩
    rw [hst]
    by_cases hd : eng.state.position d = none
    · rw [TouchState.position_applyFrame_of_not_mentions (by simpa [mentions_cancelFrame] using hd),
        hd]
    · -- an active contact is cancelled by its own event of the frame
      obtain ⟨ev, hev, rfl⟩ := mentions_cancelFrame.mpr hd
      rw [TouchState.position_applyFrame_of_mem (cancelFrame_valid hne).nodup hev]
      simp only [cancelFrame, List.mem_map] at hev
      obtain ⟨_, -, rfl⟩ := hev
      rfl

end TouchEngine

end Wroid
