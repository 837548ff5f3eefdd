import Mathlib

/-!
# Batches of mouse events

The kernel reports what a mouse does as single axis and button events, closed by a report.  The
batcher sums the motion up between the buttons and hands a report on when it is complete.  What it
reads at once need not end with a report, so a part of one waits for the next read.

## Main definitions

* `InputEvent`, `MouseEvent` — the events of the kernel and of the runtime.
* `pushEvent`, `pushEventBatch`, `pushBatches` — one event, one read, and a series of reads.
* `reported` — the events up to the last report.
* `Unsaturated` — no sum leaves the 32 bits it is kept in.

## Main results

* `pushBatches_eq` — how the stream is cut into reads does not matter.
* `batches_conserve` — **the events handed on add up to the deltas up to the last report, and their
  buttons are the buttons up to there, however the stream is cut into reads**.
-/

namespace Wroid

namespace MouseBatcher

def i32Min : ℤ := -2147483648
def i32Max : ℤ := 2147483647

/-- `i32::saturating_add` -/
def saturatingAdd (a b : ℤ) : ℤ := max i32Min (min (a + b) i32Max)

/-! ### Events -/

inductive MouseButton
  | left
  | right
  | middle
  | side
  | extra
  deriving DecidableEq, Repr

inductive MouseButtonTransition
  | pressed
  | released
  | repeated
  deriving DecidableEq, Repr

structure MouseButtonEvent where
  button : MouseButton
  transition : MouseButtonTransition
  deriving DecidableEq, Repr

structure RelativeMouseMotion where
  dx : ℤ := 0
  dy : ℤ := 0
  deriving DecidableEq, Repr

structure MouseWheel where
  vertical : ℤ := 0
  horizontal : ℤ := 0
  deriving DecidableEq, Repr

inductive MouseEvent
  | motion (motion : RelativeMouseMotion)
  | wheel (wheel : MouseWheel)
  | button (event : MouseButtonEvent)
  deriving DecidableEq, Repr

/-- The axes the batcher adds up. -/
inductive Axis
  | relX
  | relY
  | relWheel
  | relHwheel
  deriving DecidableEq, Repr

inductive RelativeAxisCode
  | axis (axis : Axis)
  | other (code : ℕ)
  deriving DecidableEq, Repr

inductive KeyCode
  | button (button : MouseButton)
  | other (code : ℕ)
  deriving DecidableEq, Repr

/-- `evdev::EventSummary`, as far as the batcher looks at it. -/
inductive EventSummary
  | relativeAxis (code : RelativeAxisCode) (value : ℤ)
  | key (code : KeyCode) (value : ℤ)
  | synReport
  | synDropped
  | other
  deriving DecidableEq, Repr

structure InputEvent where
  timestamp : ℤ
  summary : EventSummary
  deriving DecidableEq, Repr

def normalizeButtonEvent (code : KeyCode) (value : ℤ) : Option MouseButtonEvent :=
  match code with
  | .other _ => none
  | .button button =>
    if value = 0 then some ⟨button, .released⟩
    else if value = 1 then some ⟨button, .pressed⟩
    else if value = 2 then some ⟨button, .repeated⟩
    else none

/-! ### The batcher -/

structure MouseEventBatcher where
  pending : List MouseEvent := []
  motion : RelativeMouseMotion := {}
  wheel : MouseWheel := {}
  pendingTimestamp : Option ℤ := none
  deriving DecidableEq, Repr

structure MouseEventBatch where
  events : List MouseEvent := []
  kernelTimestamp : Option ℤ := none
  deriving DecidableEq, Repr

def oldestTimestamp (current : Option ℤ) (next : ℤ) : Option ℤ :=
  some (match current with
    | some current => min current next
    | none => next)

namespace MouseEventBatcher

variable (b : MouseEventBatcher)

def noteTimestamp (timestamp : ℤ) : MouseEventBatcher :=
  { b with pendingTimestamp := oldestTimestamp b.pendingTimestamp timestamp }

def flushMotion : MouseEventBatcher :=
  if b.motion.dx = 0 ∧ b.motion.dy = 0 then b
  else { b with pending := b.pending ++ [.motion b.motion], motion := {} }

def flushWheel : MouseEventBatcher :=
  if b.wheel.vertical = 0 ∧ b.wheel.horizontal = 0 then b
  else { b with pending := b.pending ++ [.wheel b.wheel], wheel := {} }

def flushRelativeEvents : MouseEventBatcher := b.flushMotion.flushWheel

/-- Add to the sum of one axis. -/
def addAxis (axis : Axis) (value : ℤ) : MouseEventBatcher :=
  match axis with
  | .relX => { b with motion.dx := saturatingAdd b.motion.dx value }
  | .relY => { b with motion.dy := saturatingAdd b.motion.dy value }
  | .relWheel => { b with wheel.vertical := saturatingAdd b.wheel.vertical value }
  | .relHwheel => { b with wheel.horizontal := saturatingAdd b.wheel.horizontal value }

/-- One pass of the loop of `push_event_batch`. -/
def pushEvent (completed : MouseEventBatch) (event : InputEvent) :
    MouseEventBatcher × MouseEventBatch :=
  match event.summary with
  | .relativeAxis (.axis axis) value =>
    ((b.noteTimestamp event.timestamp).addAxis axis value, completed)
  | .relativeAxis (.other _) _ => (b, completed)
  | .key code value =>
    match normalizeButtonEvent code value with
    | none => (b, completed)
    | some button =>
      let flushed := (b.noteTimestamp event.timestamp).flushRelativeEvents
      ({ flushed with pending := flushed.pending ++ [.button button] }, completed)
  | .synReport =>
    let flushed := b.flushRelativeEvents
    if flushed.pending = [] then ({ flushed with pendingTimestamp := none }, completed)
    else
      ({ flushed with pending := [], pendingTimestamp := none },
        { events := completed.events ++ flushed.pending
          kernelTimestamp := match flushed.pendingTimestamp with
            | some timestamp => oldestTimestamp completed.kernelTimestamp timestamp
            | none => completed.kernelTimestamp })
  | .synDropped => ({}, completed)
  | .other => (b, completed)

/-- The loop of `push_event_batch`. -/
def pushEvents (completed : MouseEventBatch) :
    List InputEvent → MouseEventBatcher × MouseEventBatch :=
  List.foldl (fun s event => s.1.pushEvent s.2 event) (b, completed)

def pushEventBatch (events : List InputEvent) : MouseEventBatcher × MouseEventBatch :=
  b.pushEvents {} events

/-- A series of reads: the batcher after them, and what each of them completed. -/
def pushBatches (b : MouseEventBatcher) :
    List (List InputEvent) → MouseEventBatcher × List MouseEventBatch
  | [] => (b, [])
  | events :: rest =>
    let read := b.pushEventBatch events
    let later := pushBatches read.1 rest
    (later.1, read.2 :: later.2)

/-! ### Reads -/

/-- What one event does, but for the events that were completed before. -/
theorem pushEvent_eq (completed : MouseEventBatch) (event : InputEvent) :
    (b.pushEvent completed event).1 = (b.pushEvent {} event).1 ∧
      (b.pushEvent completed event).2.events =
        completed.events ++ (b.pushEvent {} event).2.events := by
  unfold pushEvent
  split
  · exact ⟨rfl, (List.append_nil _).symm⟩
  · exact ⟨rfl, (List.append_nil _).symm⟩
  · split <;> exact ⟨rfl, (List.append_nil _).symm⟩
  · dsimp only
    split
    · exact ⟨rfl, (List.append_nil _).symm⟩
    · exact ⟨rfl, rfl⟩
  · exact ⟨rfl, (List.append_nil _).symm⟩
  · exact ⟨rfl, (List.append_nil _).symm⟩

@[simp] theorem pushEvents_nil (completed : MouseEventBatch) :
    b.pushEvents completed [] = (b, completed) := rfl

theorem pushEvents_append (completed : MouseEventBatch) (events events' : List InputEvent) :
    b.pushEvents completed (events ++ events') =
      (b.pushEvents completed events).1.pushEvents (b.pushEvents completed events).2 events' := by
  rw [pushEvents, List.foldl_append]
  rfl

/-- The completed events of a read come after those that were completed before it. -/
theorem pushEvents_eq (completed : MouseEventBatch) (events : List InputEvent) :
    (b.pushEvents completed events).1 = (b.pushEventBatch events).1 ∧
      (b.pushEvents completed events).2.events =
        completed.events ++ (b.pushEventBatch events).2.events := by
  induction events using List.reverseRecOn with
  | nil => exact ⟨rfl, (List.append_nil _).symm⟩
  | append_singleton events event ih =>
    obtain ⟨hbatcher, hevents⟩ := ih
    have hstep := fun completed' : MouseEventBatch =>
      (b.pushEventBatch events).1.pushEvent_eq completed' event
    rw [pushEventBatch, pushEvents_append, pushEvents_append, hbatcher, ← pushEventBatch]
    constructor
    · exact (hstep _).1.trans (hstep _).1.symm
    · refine (hstep _).2.trans ?_
      rw [hevents, List.append_assoc]
      exact congrArg (completed.events ++ ·) (hstep _).2.symm

/-- **How the stream is cut into reads does not matter**: the reads complete the events that one
read of the whole stream completes, and leave the same report unfinished. -/
theorem pushBatches_eq (batches : List (List InputEvent)) :
    (b.pushBatches batches).1 = (b.pushEventBatch batches.flatten).1 ∧
      (b.pushBatches batches).2.flatMap (·.events) =
        (b.pushEventBatch batches.flatten).2.events := by
  induction batches generalizing b with
  | nil => exact ⟨rfl, rfl⟩
  | cons events rest ih =>
    obtain ⟨hbatcher, hevents⟩ := ih (b.pushEventBatch events).1
    obtain ⟨hbatcher', hevents'⟩ :=
      (b.pushEventBatch events).1.pushEvents_eq (b.pushEventBatch events).2 rest.flatten
    rw [List.flatten_cons, pushEventBatch, pushEvents_append, ← pushEventBatch, hbatcher', hevents',
      pushBatches, List.flatMap_cons, ← hbatcher, ← hevents]
    exact ⟨rfl, rfl⟩

end MouseEventBatcher

/-! ### What is handed on -/

/-- The events up to the last report. -/
def reported (events : List InputEvent) : List InputEvent :=
  events.rdropWhile fun event => event.summary ≠ .synReport

theorem reported_concat_report {event : InputEvent} (h : event.summary = .synReport)
    (events : List InputEvent) : reported (events ++ [event]) = events ++ [event] :=
  List.rdropWhile_concat_neg _ _ _ (by simp [h])

theorem reported_concat {event : InputEvent} (h : event.summary ≠ .synReport)
    (events : List InputEvent) : reported (events ++ [event]) = reported events :=
  List.rdropWhile_concat_pos _ _ _ (by simp [h])

/-- How far the mouse went along the axis. -/
def MouseEvent.along (axis : Axis) : MouseEvent → ℤ
  | .motion m => match axis with
    | .relX => m.dx
    | .relY => m.dy
    | .relWheel | .relHwheel => 0
  | .wheel w => match axis with
    | .relX | .relY => 0
    | .relWheel => w.vertical
    | .relHwheel => w.horizontal
  | .button _ => 0

def MouseEvent.toButton : MouseEvent → Option MouseButtonEvent
  | .button event => some event
  | .motion _ | .wheel _ => none

/-- The delta the kernel reports along the axis. -/
def InputEvent.along (axis : Axis) (event : InputEvent) : ℤ :=
  match event.summary with
  | .relativeAxis (.axis axis') value => if axis' = axis then value else 0
  | _ => 0

def InputEvent.toButton (event : InputEvent) : Option MouseButtonEvent :=
  match event.summary with
  | .key code value => normalizeButtonEvent code value
  | _ => none

/-- What the batcher has added up along the axis since the last button. -/
def MouseEventBatcher.held (b : MouseEventBatcher) : Axis → ℤ
  | .relX => b.motion.dx
  | .relY => b.motion.dy
  | .relWheel => b.wheel.vertical
  | .relHwheel => b.wheel.horizontal

/-- The total along the axis. -/
def travel (axis : Axis) (events : List MouseEvent) : ℤ := (events.map (·.along axis)).sum

def rawTravel (axis : Axis) (events : List InputEvent) : ℤ := (events.map (·.along axis)).sum

@[simp] theorem travel_nil (axis : Axis) : travel axis [] = 0 := rfl

@[simp] theorem travel_append (axis : Axis) (events events' : List MouseEvent) :
    travel axis (events ++ events') = travel axis events + travel axis events' := by
  simp [travel]

@[simp] theorem travel_singleton (axis : Axis) (event : MouseEvent) :
    travel axis [event] = event.along axis := by
  simp [travel]

theorem rawTravel_concat (axis : Axis) (events : List InputEvent) (event : InputEvent) :
    rawTravel axis (events ++ [event]) = rawTravel axis events + event.along axis := by
  simp [rawTravel]

/-- The sum the event adds to stays within 32 bits. -/
def MouseEventBatcher.Fits (b : MouseEventBatcher) (event : InputEvent) : Prop :=
  match event.summary with
  | .relativeAxis (.axis axis) value => saturatingAdd (b.held axis) value = b.held axis + value
  | _ => True

instance (b : MouseEventBatcher) (event : InputEvent) : Decidable (b.Fits event) := by
  unfold MouseEventBatcher.Fits
  split <;> infer_instance

/-- No sum leaves its 32 bits while the events are pushed. -/
def Unsaturated (b : MouseEventBatcher) : List InputEvent → Prop
  | [] => True
  | event :: events => b.Fits event ∧ Unsaturated (b.pushEvent {} event).1 events

instance decidableUnsaturated (b : MouseEventBatcher) :
    (events : List InputEvent) → Decidable (Unsaturated b events)
  | [] => .isTrue trivial
  | event :: events =>
    have := decidableUnsaturated (b.pushEvent {} event).1 events
    inferInstanceAs (Decidable (_ ∧ _))

theorem unsaturated_concat {b : MouseEventBatcher} {events : List InputEvent} {event : InputEvent} :
    Unsaturated b (events ++ [event]) ↔
      Unsaturated b events ∧ (b.pushEventBatch events).1.Fits event := by
  induction events generalizing b with
  | nil => simp [Unsaturated, MouseEventBatcher.pushEventBatch]
  | cons first events ih =>
    have hfirst : (b.pushEventBatch (first :: events)).1 =
        ((b.pushEvent {} first).1.pushEventBatch events).1 :=
      ((b.pushEvent {} first).1.pushEvents_eq (b.pushEvent {} first).2 events).1
    rw [List.cons_append, Unsaturated, Unsaturated, ih, hfirst, and_assoc]

namespace MouseEventBatcher

variable (b : MouseEventBatcher)

/-- Flushing moves what has been added up behind the pending events. -/
theorem travel_flushRelativeEvents (axis : Axis) :
    travel axis b.flushRelativeEvents.pending = travel axis b.pending + b.held axis ∧
      b.flushRelativeEvents.held axis = 0 := by
  have hmotion : travel axis b.flushMotion.pending + b.flushMotion.held axis =
      travel axis b.pending + b.held axis ∧ (axis = .relX ∨ axis = .relY → b.flushMotion.held axis = 0)
      ∧ b.flushMotion.wheel = b.wheel := by
    unfold flushMotion
    split
    · next hzero =>
      refine ⟨rfl, ?_, rfl⟩
      rintro (rfl | rfl)
      · exact hzero.1
      · exact hzero.2
    · rw [travel_append, travel_singleton]
      cases axis <;> simp [MouseEvent.along, held]
  obtain ⟨hsum, hheld, hwheel⟩ := hmotion
  rw [flushRelativeEvents, ← hsum]
  unfold flushWheel
  split
  · next hzero =>
    have hheld' : b.flushMotion.held axis = 0 := by
      cases axis with
      | relX => exact hheld (Or.inl rfl)
      | relY => exact hheld (Or.inr rfl)
      | relWheel => exact hzero.1
      | relHwheel => exact hzero.2
    exact ⟨by rw [hheld', add_zero], hheld'⟩
  · rw [travel_append, travel_singleton]
    cases axis with
    | relX => simpa [MouseEvent.along, held] using hheld (Or.inl rfl)
    | relY => simpa [MouseEvent.along, held] using hheld (Or.inr rfl)
    | relWheel => exact ⟨rfl, rfl⟩
    | relHwheel => exact ⟨rfl, rfl⟩

/-- Flushing adds no button. -/
theorem toButton_flushRelativeEvents :
    b.flushRelativeEvents.pending.filterMap MouseEvent.toButton =
      b.pending.filterMap MouseEvent.toButton := by
  have hmotion : b.flushMotion.pending.filterMap MouseEvent.toButton =
      b.pending.filterMap MouseEvent.toButton := by
    unfold flushMotion
    split
    · rfl
    · simp [MouseEvent.toButton]
  rw [flushRelativeEvents, ← hmotion]
  unfold flushWheel
  split
  · rfl
  · simp [MouseEvent.toButton]

/-- Noting the time touches nothing else. -/
@[simp] theorem held_noteTimestamp (timestamp : ℤ) :
    (b.noteTimestamp timestamp).held = b.held := by
  funext axis
  cases axis <;> rfl

theorem held_addAxis (axis axis' : Axis) (value : ℤ) : (b.addAxis axis value).held axis' =
    if axis = axis' then saturatingAdd (b.held axis) value else b.held axis' := by
  cases axis <;> cases axis' <;> rfl

@[simp] theorem pending_addAxis (axis : Axis) (value : ℤ) :
    (b.addAxis axis value).pending = b.pending := by
  cases axis <;> rfl

end MouseEventBatcher

/-- What the batcher has, and has handed on, after some events. -/
structure Accounted (events : List InputEvent) (b : MouseEventBatcher)
    (completed : List MouseEvent) : Prop where
  handed : ∀ axis, travel axis completed = rawTravel axis (reported events)
  total : ∀ axis, travel axis completed + travel axis b.pending + b.held axis =
    rawTravel axis events
  handedButtons : completed.filterMap MouseEvent.toButton =
    (reported events).filterMap InputEvent.toButton
  buttons : completed.filterMap MouseEvent.toButton ++ b.pending.filterMap MouseEvent.toButton =
    events.filterMap InputEvent.toButton

theorem accounted_nil : Accounted [] {} [] where
  handed _ := rfl
  total axis := by cases axis <;> rfl
  handedButtons := rfl
  buttons := rfl

theorem filterMap_toButton_singleton (event : InputEvent) :
    [event].filterMap InputEvent.toButton = event.toButton.toList := by
  rw [List.filterMap_cons, List.filterMap_nil]
  cases event.toButton <;> rfl

/-- An event that is not a report keeps what was handed on; what it adds must add up. -/
theorem Accounted.concat {events : List InputEvent} {event : InputEvent} {b b' : MouseEventBatcher}
    {completed : List MouseEvent} (h : Accounted events b completed)
    (hreport : event.summary ≠ .synReport)
    (htotal : ∀ axis, travel axis b'.pending + b'.held axis =
      travel axis b.pending + b.held axis + event.along axis)
    (hbuttons : b'.pending.filterMap MouseEvent.toButton =
      b.pending.filterMap MouseEvent.toButton ++ event.toButton.toList) :
    Accounted (events ++ [event]) b' completed where
  handed axis := by rw [reported_concat hreport, h.handed]
  total axis := by
    rw [rawTravel_concat, ← h.total axis]
    have htotal := htotal axis
    omega
  handedButtons := by rw [reported_concat hreport, h.handedButtons]
  buttons := by
    rw [hbuttons, List.filterMap_append, ← h.buttons, List.append_assoc,
      filterMap_toButton_singleton]

/-- **One event**, as long as no sum saturates and no report is dropped. -/
theorem Accounted.pushEvent {events : List InputEvent} {event : InputEvent} {b : MouseEventBatcher}
    {completed : List MouseEvent} (h : Accounted events b completed) (hfits : b.Fits event)
    (hdropped : event.summary ≠ .synDropped) :
    Accounted (events ++ [event]) (b.pushEvent {} event).1
      (completed ++ (b.pushEvent {} event).2.events) := by
  have hquiet : b.pushEvent {} event = (b, {}) → (∀ axis, event.along axis = 0) →
      event.toButton = none → event.summary ≠ .synReport →
      Accounted (events ++ [event]) (b.pushEvent {} event).1
        (completed ++ (b.pushEvent {} event).2.events) := by
    intro hpush halong hbutton hreport
    rw [hpush, List.append_nil]
    refine h.concat hreport (fun axis => ?_) ?_
    · rw [halong, add_zero]
    · rw [hbutton]
      exact (List.append_nil _).symm
  cases hsummary : event.summary with
  | relativeAxis code value =>
    have hbutton : event.toButton = none := by rw [InputEvent.toButton, hsummary]
    cases code with
    | other code =>
      refine hquiet ?_ (fun axis => ?_) hbutton (hsummary ▸ nofun)
      · rw [MouseEventBatcher.pushEvent, hsummary]
      · rw [InputEvent.along, hsummary]
    | axis axis =>
      have hfits : saturatingAdd (b.held axis) value = b.held axis + value := by
        rwa [MouseEventBatcher.Fits, hsummary] at hfits
      have hpush : b.pushEvent {} event =
          ((b.noteTimestamp event.timestamp).addAxis axis value, {}) := by
        rw [MouseEventBatcher.pushEvent, hsummary]
      rw [hpush, List.append_nil]
      refine h.concat (hsummary ▸ nofun) (fun axis' => ?_) ?_
      · have halong : event.along axis' = if axis = axis' then value else 0 := by
          rw [InputEvent.along, hsummary]
        rw [MouseEventBatcher.pending_addAxis, MouseEventBatcher.held_addAxis,
          MouseEventBatcher.held_noteTimestamp, halong, hfits]
        change travel axis' b.pending + _ = _
        split
        · next heq => rw [heq, add_assoc]
        · rw [add_zero]
      · rw [MouseEventBatcher.pending_addAxis, hbutton]
        exact (List.append_nil _).symm
  | key code value =>
    have halong : ∀ axis, event.along axis = 0 := fun axis => by rw [InputEvent.along, hsummary]
    have hbutton : event.toButton = normalizeButtonEvent code value := by
      rw [InputEvent.toButton, hsummary]
    cases hnormal : normalizeButtonEvent code value with
    | none =>
      refine hquiet ?_ halong (hbutton.trans hnormal) (hsummary ▸ nofun)
      simp only [MouseEventBatcher.pushEvent, hsummary, hnormal]
    | some button =>
      have hpush : b.pushEvent {} event =
          ({ (b.noteTimestamp event.timestamp).flushRelativeEvents with
             pending := (b.noteTimestamp event.timestamp).flushRelativeEvents.pending ++
               [.button button] }, {}) := by
        simp only [MouseEventBatcher.pushEvent, hsummary, hnormal]
      have hnoted : ∀ axis, (b.noteTimestamp event.timestamp).held axis = b.held axis := fun axis =>
        congrFun (b.held_noteTimestamp _) axis
      rw [hpush, List.append_nil]
      refine h.concat (hsummary ▸ nofun) (fun axis => ?_) ?_
      · obtain ⟨hpending, hheld⟩ :=
          (b.noteTimestamp event.timestamp).travel_flushRelativeEvents axis
        rw [hnoted] at hpending
        rw [travel_append, travel_singleton, hpending, halong]
        change travel axis b.pending + b.held axis + 0 +
          (b.noteTimestamp event.timestamp).flushRelativeEvents.held axis = _
        rw [hheld, add_zero]
      · rw [List.filterMap_append, MouseEventBatcher.toButton_flushRelativeEvents, hbutton, hnormal]
        rfl
  | synReport =>
    have halong : ∀ axis, event.along axis = 0 := fun axis => by rw [InputEvent.along, hsummary]
    have hbutton : event.toButton = none := by rw [InputEvent.toButton, hsummary]
    -- whether or not something is pending, it is handed on
    obtain ⟨hpending, hheld, hhanded⟩ : (b.pushEvent {} event).1.pending = [] ∧
        (b.pushEvent {} event).1.held = b.flushRelativeEvents.held ∧
          (b.pushEvent {} event).2.events = b.flushRelativeEvents.pending := by
      simp only [MouseEventBatcher.pushEvent, hsummary]
      split
      · next hnil =>
        refine ⟨hnil, ?_, hnil.symm⟩
        funext axis
        cases axis <;> rfl
      · refine ⟨rfl, ?_, rfl⟩
        funext axis
        cases axis <;> rfl
    have htotal : ∀ axis, travel axis (completed ++ b.flushRelativeEvents.pending) =
        rawTravel axis (events ++ [event]) := by
      intro axis
      rw [travel_append, (b.travel_flushRelativeEvents axis).1, rawTravel_concat, halong,
        ← h.total axis]
      omega
    have hbuttons : (completed ++ b.flushRelativeEvents.pending).filterMap MouseEvent.toButton =
        (events ++ [event]).filterMap InputEvent.toButton := by
      rw [List.filterMap_append, b.toButton_flushRelativeEvents, h.buttons, List.filterMap_append,
        filterMap_toButton_singleton, hbutton]
      exact (List.append_nil _).symm
    rw [hhanded]
    refine ⟨fun axis => ?_, fun axis => ?_, ?_, ?_⟩
    · rw [reported_concat_report hsummary, htotal]
    · rw [htotal, hpending, hheld, (b.travel_flushRelativeEvents axis).2, travel_nil]
      omega
    · rw [reported_concat_report hsummary, hbuttons]
    · rw [hpending, hbuttons]
      exact List.append_nil _
  | synDropped => exact absurd hsummary hdropped
  | other =>
    refine hquiet ?_ (fun axis => ?_) ?_ (hsummary ▸ nofun)
    · rw [MouseEventBatcher.pushEvent, hsummary]
    · rw [InputEvent.along, hsummary]
    · rw [InputEvent.toButton, hsummary]

/-- A read without dropped reports and saturation is accounted for. -/
theorem accounted_pushEventBatch {events : List InputEvent}
    (hdropped : ∀ event ∈ events, event.summary ≠ .synDropped) (hfits : Unsaturated {} events) :
    Accounted events (MouseEventBatcher.pushEventBatch {} events).1
      (MouseEventBatcher.pushEventBatch {} events).2.events := by
  induction events using List.reverseRecOn with
  | nil => exact accounted_nil
  | append_singleton events event ih =>
    obtain ⟨hfits, hlast⟩ := unsaturated_concat.mp hfits
    have hdroppedLast := hdropped event (List.mem_append_right _ List.mem_cons_self)
    have ih := ih (fun e he => hdropped e (List.mem_append_left _ he)) hfits
    have hstep := ih.pushEvent hlast hdroppedLast
    rw [MouseEventBatcher.pushEventBatch, MouseEventBatcher.pushEvents_append,
      ← MouseEventBatcher.pushEventBatch]
    obtain ⟨hbatcher, hevents⟩ := (MouseEventBatcher.pushEventBatch {} events).1.pushEvent_eq
      (MouseEventBatcher.pushEventBatch {} events).2 event
    change Accounted _ (MouseEventBatcher.pushEvent _ _ event).1
      (MouseEventBatcher.pushEvent _ _ event).2.events
    rw [hbatcher, hevents]
    exact hstep

/-- **However the stream is cut into reads, the same events are handed on; without dropped reports
and saturation they add up to the deltas up to the last report, and their buttons are the
transitions up to there, each once and in order.** -/
theorem batches_conserve (batches : List (List InputEvent)) :
    let completed := (MouseEventBatcher.pushBatches {} batches).2.flatMap (·.events)
    completed = (MouseEventBatcher.pushEventBatch {} batches.flatten).2.events ∧
      ((∀ event ∈ batches.flatten, event.summary ≠ .synDropped) →
        Unsaturated {} batches.flatten →
        (∀ axis, travel axis completed = rawTravel axis (reported batches.flatten)) ∧
        completed.filterMap MouseEvent.toButton =
          (reported batches.flatten).filterMap InputEvent.toButton) := by
  obtain ⟨-, hevents⟩ := MouseEventBatcher.pushBatches_eq {} batches
  refine ⟨hevents, fun hdropped hfits => ?_⟩
  rw [hevents]
  have haccounted := accounted_pushEventBatch hdropped hfits
  exact ⟨haccounted.handed, haccounted.handedButtons⟩

/-- A report cut in two: the motion before the button and after it are kept apart. -/
theorem batches_conserve_split :
    let batches : List (List InputEvent) :=
      [[⟨3, .relativeAxis (.axis .relX) 8⟩, ⟨3, .key (.button .left) 1⟩],
        [⟨4, .relativeAxis (.axis .relY) (-5)⟩, ⟨5, .synReport⟩, ⟨6, .relativeAxis (.axis .relX) 1⟩]]
    let completed := (MouseEventBatcher.pushBatches {} batches).2.flatMap (·.events)
    (∀ axis, travel axis completed = rawTravel axis (reported batches.flatten)) ∧
      completed.filterMap MouseEvent.toButton =
        (reported batches.flatten).filterMap InputEvent.toButton :=
  (batches_conserve _).2 (by decide) (by decide +kernel)

end MouseBatcher

end Wroid
