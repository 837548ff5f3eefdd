import Wroid.Session.Contacts

/-!
# The event loop

`run_event_loop` of `game_session.rs`: it decides when host input reaches the runtime.  Input
is released to the desktop when the window loses the focus, when the focus relay fails and
with F12, and captured again when the reason is gone.  While input is captured the loop is in
aim mode, where the mouse drives the bindings, or in UI mode, where it drives a virtual
cursor.

Each turn of the loop is a list of steps: the focus events, a look at the clock, one host
event, and a tick.  The input devices and the overlay may fail at any step; what they answer,
and the time, are arguments of the step.  Messages for the user, the position of the host
cursor and the drawing of the virtual cursor are left out.

## Main definitions

* `EventLoop` — the variables of the loop, with the runtime.
* `EventLoop.step` — one step; an error or an exit ends the loop.
* `Turn.events` — the steps of one turn.
* `EventLoop.Clean` — released input leaves nothing behind, captured input has no reason to be
  released.

## Main results

* `step_clean` — every step keeps the loop clean.
* `released_input_is_clean` — **so does every run**.
-/

namespace Wroid

open Lib

/-! ### The virtual cursor -/

/-- Who owns the mouse while input is captured. -/
inductive InputMode
  | aim
  | ui
  deriving DecidableEq, Repr

structure VirtualCursor where
  x : ℚ
  y : ℚ
  pressed : Bool
  deriving DecidableEq

namespace VirtualCursor

def centered (resolution : Resolution) : VirtualCursor :=
  ⟨resolution.width / 2, resolution.height / 2, false⟩

def moveBy (cursor : VirtualCursor) (dx dy : ℤ) (resolution : Resolution) : VirtualCursor :=
  { cursor with
    x := clampRat (cursor.x + dx) 0 (resolution.width - 1 : ℕ)
    y := clampRat (cursor.y + dy) 0 (resolution.height - 1 : ℕ) }

def point (cursor : VirtualCursor) : Point :=
  ⟨asUnsigned u32Max ⌊cursor.x⌋, asUnsigned u32Max ⌊cursor.y⌋⟩

end VirtualCursor

/-! ### Events -/

/-- What the focus relay reports. -/
inductive FocusEvent
  | changed (focused : Bool)
  | unavailable
  deriving DecidableEq, Repr

/-- What the cursor overlay reports. -/
inductive CursorEvent
  | motion (x y : ℚ) (surfaceWidth surfaceHeight : ℕ)
  | leftButton (pressed : Bool) (x y : ℚ) (surfaceWidth surfaceHeight : ℕ)
  deriving DecidableEq

/-- Why the loop ends. -/
inductive LoopEnd
  | exitHotkeyRequested
  | interruptRequested
  | failed (error : SessionError)
  deriving DecidableEq, Repr

/-- One step of the loop. -/
inductive LoopEvent
  | focus (event : FocusEvent)
  /-- The look at the clock after the focus events: whether the grace period is over. -/
  | focusFallback (elapsed : Bool)
  | key (event : HostKeyEvent)
  /-- The choice of the mode after a batch of keys. -/
  | syncMode
  | mouse (event : MouseEvent)
  | cursor (event : CursorEvent)
  | readersFailed (message : String)
  | tick
  deriving DecidableEq

/-- The event that a turn of the loop receives. -/
inductive HostEvent
  | keyboard (events : List HostKeyEvent)
  | mouse (events : List MouseEvent)
  | cursor (event : CursorEvent)
  | readersFailed (message : String)
  | timeout

/-- What one turn of the loop finds. -/
structure Turn where
  focusEvents : List FocusEvent
  elapsed : Bool
  host : HostEvent

def HostEvent.steps : HostEvent → List LoopEvent
  | .keyboard events => events.map .key ++ [.syncMode]
  | .mouse events => events.map .mouse
  | .cursor event => [.cursor event]
  | .readersFailed message => [.readersFailed message]
  | .timeout => []

/-- The steps of one turn. -/
def Turn.events (turn : Turn) : List LoopEvent :=
  turn.focusEvents.map .focus ++ [.focusFallback turn.elapsed] ++ turn.host.steps ++ [.tick]

/-- How the readers and the overlay answer the requests of one step: `none` is success. -/
structure DeviceReplies where
  keyboard : Option String
  mouse : Option String
  overlay : Option String

/-- The circumstances of a step. -/
structure Moment where
  now : ℕ
  replies : DeviceReplies

/-- The time `now`, with every device in order. -/
def Moment.calm (now : ℕ) : Moment := ⟨now, none, none, none⟩

/-! ### The loop -/

/-- Whether there is a focus relay, and an overlay for the virtual cursor. -/
structure LoopOptions where
  relay : Bool
  overlay : Bool

/-- The variables of the loop. -/
structure EventLoop (I : Type) where
  runtime : UnifiedRuntime I
  focusProtected : Bool
  waydroidFocused : Bool
  inputActive : Bool
  manuallyReleased : Bool
  sawFocusEvent : Bool
  mode : InputMode
  toggleAimActiveBeforeRelease : Bool
  controlPressed : Bool
  virtualCursor : VirtualCursor

namespace EventLoop

variable {I : Type} [TouchInjector I]

abbrev LoopM (I : Type) := EStateM LoopEnd (EventLoop I)

def onRuntime {α : Type} (m : RuntimeM I α) : LoopM I α :=
  mapError .failed (zoom runtime (fun rt loop => { loop with runtime := rt }) m)

/-- A request to a device. -/
def device (reply : Option String) : LoopM I Unit :=
  match reply with
  | none => pure ()
  | some message => throw (.failed (.other message))

/-- The mode that fits what the aims are doing. -/
def desiredMode (options : LoopOptions) (rt : UnifiedRuntime I) : InputMode :=
  if rt.aimActive || !rt.hasToggleKeyAim || !options.overlay then .aim else .ui

def overlayRequest (options : LoopOptions) (replies : DeviceReplies) : LoopM I Unit :=
  if options.overlay then device replies.overlay else return ()

def applyInputMode (options : LoopOptions) (moment : Moment) (mode : InputMode)
    (reactivateToggleAim : Bool) : LoopM I Unit :=
  match mode with
  | .aim => do
    device moment.replies.mouse
    overlayRequest options moment.replies
    onRuntime (UnifiedRuntime.restoreAim reactivateToggleAim moment.now)
  | .ui => do
    onRuntime (UnifiedRuntime.setAimEnabled false moment.now)
    onRuntime (UnifiedRuntime.releaseMouseButtons moment.now)
    device moment.replies.mouse
    overlayRequest options moment.replies

def releaseInputToOs (options : LoopOptions) (moment : Moment) : LoopM I Unit := do
  device moment.replies.keyboard
  device moment.replies.mouse
  overlayRequest options moment.replies
  onRuntime UnifiedRuntime.suspend

/-- Release the input, remembering the mode and whether an aim was active. -/
def release (options : LoopOptions) (moment : Moment) : LoopM I Unit := do
  modify fun loop => { loop with
    inputActive := false
    mode := desiredMode options loop.runtime
    toggleAimActiveBeforeRelease := loop.runtime.aimActive }
  releaseInputToOs options moment

/-- Capture the input again, in the mode it was released in. -/
def capture (options : LoopOptions) (moment : Moment) : LoopM I Unit := do
  device moment.replies.keyboard
  let loop ← get
  applyInputMode options moment loop.mode loop.toggleAimActiveBeforeRelease
  modify fun loop => { loop with inputActive := true }

def focusChanged (options : LoopOptions) (moment : Moment) (focused : Bool) : LoopM I Unit := do
  let loop ← get
  if loop.focusProtected then
    set { loop with sawFocusEvent := true, waydroidFocused := focused, controlPressed := false }
    if focused then
      if !loop.manuallyReleased && !loop.inputActive then capture options moment else return ()
    else if loop.inputActive then release options moment
    else return ()
  else
    -- once the protection is gone, only F12 captures
    set { loop with sawFocusEvent := true, waydroidFocused := focused }

def focusUnavailable (options : LoopOptions) (moment : Moment) : LoopM I Unit := do
  let loop ← get
  if loop.focusProtected then
    set { loop with
      focusProtected := false, waydroidFocused := false, manuallyReleased := true
      controlPressed := false }
    if loop.inputActive then release options moment else return ()
  else return ()

/-- A relay that stays silent is given up. -/
def focusFallback (elapsed : Bool) : LoopM I Unit :=
  modify fun loop =>
    if loop.focusProtected && !loop.inputActive && !loop.manuallyReleased &&
        !loop.sawFocusEvent && elapsed then
      { loop with focusProtected := false, manuallyReleased := true }
    else loop

/-- F12 was pressed. -/
def releaseHotkey (options : LoopOptions) (moment : Moment) : LoopM I Unit := do
  modify fun loop => { loop with controlPressed := false }
  let loop ← get
  if loop.inputActive then
    set { loop with manuallyReleased := true }
    release options moment
  else if loop.manuallyReleased && (loop.waydroidFocused || !loop.focusProtected) then
    capture options moment
    modify fun loop => { loop with manuallyReleased := false }
  else return ()

/-- Whether Ctrl is held after the event `event`. -/
def controlAfter (loop : EventLoop I) (event : HostKeyEvent) : Bool :=
  if event.key = .named .ctrl then event.transition ≠ .released else loop.controlPressed

def key (options : LoopOptions) (moment : Moment) (event : HostKeyEvent) : LoopM I Unit := do
  if event.key = .f12 then
    if event.transition = .pressed then releaseHotkey options moment else return ()
  else
    let loop ← get
    if loop.inputActive then
      let controlPressed := loop.controlAfter event
      set { loop with controlPressed := controlPressed }
      if controlPressed && event = ⟨.named .esc, .pressed⟩ then throw .exitHotkeyRequested
      else if controlPressed && event = ⟨.named .c, .pressed⟩ then throw .interruptRequested
      else
        let _ ← onRuntime (UnifiedRuntime.handleKeyboard event moment.now)
    else return ()

def syncMode (options : LoopOptions) (moment : Moment) : LoopM I Unit := do
  let loop ← get
  let nextMode := desiredMode options loop.runtime
  if loop.inputActive && nextMode ≠ loop.mode then
    applyInputMode options moment nextMode true
    modify fun loop => { loop with mode := nextMode }
  else return ()

/-- A mouse event in UI mode. -/
def driveCursor (event : MouseEvent) : LoopM I Unit :=
  match event with
  | .motion dx dy => do
    modify fun loop => { loop with
      virtualCursor := loop.virtualCursor.moveBy dx dy loop.runtime.setup.resolution }
    let loop ← get
    if loop.virtualCursor.pressed then
      onRuntime (UnifiedRuntime.cursorMove loop.virtualCursor.point)
    else return ()
  | .button .left .pressed => do
    modify fun loop => { loop with virtualCursor := { loop.virtualCursor with pressed := true } }
    let loop ← get
    onRuntime (UnifiedRuntime.cursorDown loop.virtualCursor.point)
  | .button .left .released => do
    modify fun loop => { loop with virtualCursor := { loop.virtualCursor with pressed := false } }
    onRuntime UnifiedRuntime.cursorUp
  | .button _ _ | .wheel _ _ => return ()

def mouse (moment : Moment) (event : MouseEvent) : LoopM I Unit := do
  let loop ← get
  if loop.inputActive then
    match loop.mode with
    | .aim => do
      let _ ← onRuntime (UnifiedRuntime.handleMouse event moment.now)
    | .ui => driveCursor event
  else return ()

def cursor (event : CursorEvent) : LoopM I Unit := do
  let loop ← get
  if loop.inputActive && loop.mode = .ui then
    match event with
    | .motion x y surfaceWidth surfaceHeight =>
      match UnifiedRuntime.cursorPoint loop.runtime.setup.resolution x y surfaceWidth surfaceHeight with
      | some point => onRuntime (UnifiedRuntime.cursorMove point)
      | none => return ()
    | .leftButton pressed x y surfaceWidth surfaceHeight =>
      match UnifiedRuntime.cursorPoint loop.runtime.setup.resolution x y surfaceWidth surfaceHeight with
      | some point =>
        onRuntime (if pressed then UnifiedRuntime.cursorDown point else UnifiedRuntime.cursorUp)
      | none => return ()
  else return ()

def tick (moment : Moment) : LoopM I Unit := do
  let loop ← get
  if loop.inputActive then onRuntime (UnifiedRuntime.tick moment.now) else return ()

/-- One step of the loop.  Without a relay there is nothing to hear from it. -/
def step (options : LoopOptions) : LoopEvent × Moment → LoopM I Unit
  | (.focus (.changed focused), moment) =>
    if options.relay then focusChanged options moment focused else return ()
  | (.focus .unavailable, moment) =>
    if options.relay then focusUnavailable options moment else return ()
  | (.focusFallback elapsed, _) => if options.relay then focusFallback elapsed else return ()
  | (.key event, moment) => key options moment event
  | (.syncMode, moment) => syncMode options moment
  | (.mouse event, moment) => mouse moment event
  | (.cursor event, _) => cursor event
  | (.readersFailed message, _) => throw (.failed (.other message))
  | (.tick, moment) => tick moment

/-- The loop before it starts; `focused` is what the relay said last. -/
def new (options : LoopOptions) (focused : Bool) (rt : UnifiedRuntime I) : EventLoop I :=
  let initiallyFocused := !options.relay || focused
  { runtime := rt
    focusProtected := options.relay
    waydroidFocused := initiallyFocused
    inputActive := initiallyFocused
    manuallyReleased := false
    sawFocusEvent := false
    mode := if !rt.hasAlwaysOnAim && rt.hasToggleKeyAim && options.overlay then .ui else .aim
    toggleAimActiveBeforeRelease := false
    controlPressed := false
    virtualCursor := .centered rt.setup.resolution }

/-- The session starts: the aims that are always on, then the mode if it is not aim mode. -/
def enter (options : LoopOptions) (moment : Moment) : LoopM I Unit := do
  let loop ← get
  if loop.inputActive then
    onRuntime (UnifiedRuntime.start moment.now)
    if loop.mode = .ui then applyInputMode options moment .ui false else return ()
  else return ()

/-- The loop after it started and took the given steps. -/
def runEventLoop (options : LoopOptions) (moment : Moment) (steps : List (LoopEvent × Moment)) :
    LoopM I Unit := do
  enter options moment
  runAll (step options) steps

/-! ### Released input -/

section Wp

variable {loop : EventLoop I} {R : LoopEnd → EventLoop I → Prop}

omit [TouchInjector I] in
@[simp] theorem wp_onRuntime {α : Type} (m : RuntimeM I α) {Q : α → EventLoop I → Prop} :
    wp (onRuntime m) Q R loop ↔ wp m (fun a rt => Q a { loop with runtime := rt })
      (fun e rt => R (.failed e) { loop with runtime := rt }) loop.runtime := by
  simp [onRuntime]

omit [TouchInjector I] in
/-- A request that fails ends the loop, and changes nothing otherwise. -/
theorem wp_device {reply : Option String} {Q : Unit → EventLoop I → Prop} (h : Q () loop) :
    wp (device reply) Q (fun _ _ => True) loop := by
  cases reply with
  | none => exact h
  | some message => trivial

omit [TouchInjector I] in
theorem wp_overlayRequest {options : LoopOptions} {replies : DeviceReplies}
    {Q : Unit → EventLoop I → Prop} (h : Q () loop) :
    wp (overlayRequest options replies) Q (fun _ _ => True) loop := by
  rw [overlayRequest, wp_ite]
  split
  · exact wp_device h
  · exact h

/-- Entering a mode changes the runtime only. -/
theorem applyInputMode_spec {options : LoopOptions} {moment : Moment} {mode : InputMode}
    {reactivate : Bool} {P : UnifiedRuntime I → Prop} {Q : Unit → EventLoop I → Prop}
    (haim : mode = .aim → wp (UnifiedRuntime.restoreAim reactivate moment.now) (fun _ rt => P rt)
      (fun _ _ => True) loop.runtime)
    (hui : mode = .ui → wp (do
        UnifiedRuntime.setAimEnabled false moment.now
        UnifiedRuntime.releaseMouseButtons moment.now) (fun _ rt => P rt)
      (fun _ _ => True) loop.runtime)
    (hQ : ∀ rt, P rt → Q () { loop with runtime := rt }) :
    wp (applyInputMode options moment mode reactivate) Q (fun _ _ => True) loop := by
  cases mode with
  | aim =>
    simp only [applyInputMode, wp_bind, wp_onRuntime]
    exact wp_device (wp_overlayRequest (wp_mono (haim rfl) (fun _ rt hrt => hQ rt hrt)
      fun _ _ _ => trivial))
  | ui =>
    have hui := hui rfl
    simp only [applyInputMode, wp_bind, wp_onRuntime] at hui ⊢
    refine wp_mono hui (fun _ rt hrt => ?_) fun _ _ _ => trivial
    exact wp_mono hrt (fun _ rt' hrt' => wp_device (wp_overlayRequest (hQ rt' hrt')))
      fun _ _ _ => trivial

end Wp

/-- Released input leaves nothing down and nothing held; captured input was not released by
hand, and the window has the focus while the focus is protected. -/
structure Clean (loop : EventLoop I) : Prop where
  released : loop.inputActive = false → loop.runtime.held = .none ∧
    ∀ c, loop.runtime.engine.state.isActive c = false
  captured : loop.inputActive = true → loop.manuallyReleased = false ∧
    (loop.focusProtected = true → loop.waydroidFocused = true)

variable {options : LoopOptions} {moment : Moment} {loop : EventLoop I}

omit [TouchInjector I] in
/-- While input is captured, a step that only uses the runtime and the virtual cursor keeps
the loop clean. -/
theorem Clean.of_fields {loop' : EventLoop I} (h : Clean loop) (hactive : loop.inputActive = true)
    (hactive' : loop'.inputActive = true) (hmanual : loop'.manuallyReleased = loop.manuallyReleased)
    (hprotected : loop'.focusProtected = loop.focusProtected)
    (hfocused : loop'.waydroidFocused = loop.waydroidFocused) : Clean loop' :=
  ⟨fun hreleased => (Bool.eq_false_iff.mp hreleased hactive').elim, fun _ => by
    rw [hmanual, hprotected, hfocused]
    exact h.captured hactive⟩

theorem release_clean (hinjector : NeverFails I) :
    wp (release options moment) (fun _ loop' => Clean loop') (fun _ _ => True) loop := by
  simp only [release, releaseInputToOs, wp_bind, wp_modify, wp_onRuntime]
  refine wp_device (wp_device (wp_overlayRequest ?_))
  refine wp_mono (UnifiedRuntime.suspend_clears loop.runtime fun eng => ?_) ?_ fun _ _ _ => trivial
  · refine wp_mono (TouchEngine.cancelAll_spec (K := .ofNeverFails hinjector) trivial trivial)
      (fun _ _ h => h.2) fun _ _ _ => trivial
  · rintro - rt ⟨hheld, hup⟩
    exact ⟨fun _ => ⟨hheld, fun c => by simp [TouchState.isActive_eq, hup]⟩, fun hactive => by
      cases hactive⟩

/-- Capturing needs a window with the focus, or no protection of the focus. -/
theorem capture_clean {Q : Unit → EventLoop I → Prop}
    (hQ : ∀ rt, Q () { loop with runtime := rt, inputActive := true }) :
    wp (capture options moment) Q (fun _ _ => True) loop := by
  simp only [capture, wp_bind, wp_get]
  refine wp_device ?_
  exact applyInputMode_spec (P := fun _ => True) (fun _ => wp_true) (fun _ => wp_true)
    fun rt _ => hQ rt

theorem focusChanged_clean (hinjector : NeverFails I) (focused : Bool) (h : Clean loop) :
    wp (focusChanged options moment focused) (fun _ loop' => Clean loop') (fun _ _ => True) loop := by
  simp only [focusChanged, wp_bind, wp_get, wp_ite, wp_set, wp_pure]
  split
  · split
    · next hfocused =>
      split
      · next hcapture =>
        simp only [Bool.and_eq_true, Bool.not_eq_true'] at hcapture
        exact capture_clean fun rt =>
          ⟨fun hreleased => (by cases hreleased), fun _ => ⟨hcapture.1, fun _ => hfocused⟩⟩
      · exact ⟨h.released, fun hactive => ⟨(h.captured hactive).1, fun _ => hfocused⟩⟩
    · split
      · exact release_clean hinjector
      · next hidle => exact ⟨h.released, fun hactive => absurd hactive hidle⟩
  · next hprotected =>
    exact ⟨h.released, fun hactive =>
      ⟨(h.captured hactive).1, fun hp => absurd hp hprotected⟩⟩

theorem focusUnavailable_clean (hinjector : NeverFails I) (h : Clean loop) :
    wp (focusUnavailable options moment) (fun _ loop' => Clean loop') (fun _ _ => True) loop := by
  simp only [focusUnavailable, wp_bind, wp_get, wp_ite, wp_set, wp_pure]
  split
  · split
    · exact release_clean hinjector
    · next hidle => exact ⟨h.released, fun hactive => absurd hactive hidle⟩
  · exact h

omit [TouchInjector I] in
theorem focusFallback_clean (elapsed : Bool) (h : Clean loop) :
    wp (focusFallback elapsed) (fun _ loop' => Clean loop') (fun _ _ => True) loop := by
  simp only [focusFallback, wp_modify]
  split
  · next hsilent =>
    simp only [Bool.and_eq_true, Bool.not_eq_true'] at hsilent
    exact ⟨h.released, fun hactive => by simp [hsilent.1.1.1.2] at hactive⟩
  · exact h

theorem releaseHotkey_clean (hinjector : NeverFails I) (h : Clean loop) :
    wp (releaseHotkey options moment) (fun _ loop' => Clean loop') (fun _ _ => True) loop := by
  simp only [releaseHotkey, wp_bind, wp_modify, wp_get, wp_ite, wp_set, wp_pure]
  split
  · exact release_clean hinjector
  · split
    · next hcapture =>
      simp only [Bool.and_eq_true, Bool.or_eq_true, Bool.not_eq_true'] at hcapture
      refine capture_clean fun rt => ⟨fun h => (by cases h), fun _ => ⟨rfl, fun hp => ?_⟩⟩
      exact hcapture.2.resolve_right fun hoff => by
        rw [show loop.focusProtected = true from hp] at hoff
        cases hoff
    · exact ⟨h.released, h.captured⟩

theorem key_clean (hinjector : NeverFails I) (event : HostKeyEvent) (h : Clean loop) :
    wp (key options moment event) (fun _ loop' => Clean loop') (fun _ _ => True) loop := by
  simp only [key, wp_bind, wp_get, wp_ite, wp_set, wp_pure, wp_throw, wp_onRuntime]
  split
  · split
    · exact releaseHotkey_clean hinjector h
    · exact h
  · split
    · next hactive =>
      split
      · trivial
      split
      · trivial
      exact wp_mono wp_true (fun _ rt _ => h.of_fields hactive hactive rfl rfl rfl)
        fun _ _ _ => trivial
    · exact h

theorem syncMode_clean (h : Clean loop) :
    wp (syncMode options moment) (fun _ loop' => Clean loop') (fun _ _ => True) loop := by
  simp only [syncMode, wp_bind, wp_get, wp_ite, wp_modify, wp_pure]
  split
  · next hactive =>
    simp only [Bool.and_eq_true] at hactive
    exact applyInputMode_spec (P := fun _ => True) (fun _ => wp_true) (fun _ => wp_true)
      fun rt _ => h.of_fields hactive.1 hactive.1 rfl rfl rfl
  · exact h

theorem driveCursor_clean (event : MouseEvent) (hactive : loop.inputActive = true)
    (h : Clean loop) :
    wp (driveCursor event) (fun _ loop' => Clean loop') (fun _ _ => True) loop := by
  unfold driveCursor
  split <;> simp only [wp_bind, wp_modify, wp_get, wp_ite, wp_onRuntime, wp_pure]
  · split
    · exact wp_mono wp_true (fun _ rt _ => h.of_fields hactive hactive rfl rfl rfl) fun _ _ _ => trivial
    · exact h.of_fields hactive hactive rfl rfl rfl
  · exact wp_mono wp_true (fun _ rt _ => h.of_fields hactive hactive rfl rfl rfl) fun _ _ _ => trivial
  · exact wp_mono wp_true (fun _ rt _ => h.of_fields hactive hactive rfl rfl rfl) fun _ _ _ => trivial
  · exact h
  · exact h

theorem mouse_clean (event : MouseEvent) (h : Clean loop) :
    wp (mouse moment event) (fun _ loop' => Clean loop') (fun _ _ => True) loop := by
  simp only [mouse, wp_bind, wp_get, wp_ite, wp_pure]
  split
  · next hactive =>
    split
    · simp only [wp_bind, wp_onRuntime, wp_pure]
      exact wp_mono wp_true (fun _ rt _ => h.of_fields hactive hactive rfl rfl rfl)
        fun _ _ _ => trivial
    · exact driveCursor_clean event hactive h
  · exact h

theorem cursor_clean (event : CursorEvent) (h : Clean loop) :
    wp (cursor event) (fun _ loop' => Clean loop') (fun _ _ => True) loop := by
  simp only [cursor, wp_bind, wp_get, wp_ite, wp_pure]
  split
  · next hui =>
    simp only [Bool.and_eq_true] at hui
    have hruntime : ∀ m : RuntimeM I Unit,
        wp (onRuntime m) (fun _ loop' => Clean loop') (fun _ _ => True) loop := fun m => by
      rw [wp_onRuntime]
      exact wp_mono wp_true (fun _ rt _ => h.of_fields hui.1 hui.1 rfl rfl rfl) fun _ _ _ => trivial
    split
    · split
      · exact hruntime _
      · exact h
    · split
      · exact hruntime _
      · exact h
  · exact h

/-- **Every step keeps the loop clean.** -/
theorem step_clean (hinjector : NeverFails I) (e : LoopEvent × Moment) (h : Clean loop) :
    wp (step options e) (fun _ loop' => Clean loop') (fun _ _ => True) loop := by
  obtain ⟨event, moment⟩ := e
  cases event with
  | focus event =>
    cases event with
    | changed focused =>
      simp only [step, wp_ite, wp_pure]
      split
      · exact focusChanged_clean hinjector focused h
      · exact h
    | unavailable =>
      simp only [step, wp_ite, wp_pure]
      split
      · exact focusUnavailable_clean hinjector h
      · exact h
  | focusFallback elapsed =>
    simp only [step, wp_ite, wp_pure]
    split
    · exact focusFallback_clean elapsed h
    · exact h
  | key event => exact key_clean hinjector event h
  | syncMode => exact syncMode_clean h
  | mouse event => exact mouse_clean event h
  | cursor event => exact cursor_clean event h
  | readersFailed message => trivial
  | tick =>
    simp only [step, tick, wp_bind, wp_get, wp_ite, wp_onRuntime, wp_pure]
    split
    · next hactive =>
      exact wp_mono wp_true (fun _ rt _ => h.of_fields hactive hactive rfl rfl rfl)
        fun _ _ _ => trivial
    · exact h

/-- Starting the session keeps the loop clean. -/
theorem enter_clean (h : Clean loop) :
    wp (enter options moment) (fun _ loop' => Clean loop') (fun _ _ => True) loop := by
  simp only [enter, wp_bind, wp_get, wp_ite, wp_onRuntime, wp_pure]
  split
  · next hactive =>
    refine wp_mono wp_true (fun _ rt _ => ?_) fun _ _ _ => trivial
    split
    · exact applyInputMode_spec (P := fun _ => True) (fun _ => wp_true) (fun _ => wp_true)
        fun rt _ => h.of_fields hactive hactive rfl rfl rfl
    · exact h.of_fields hactive hactive rfl rfl rfl
  · exact h

variable {plan : RuntimeControlPlan} {injector : I} {rt₀ : UnifiedRuntime I}

omit [TouchInjector I] in
theorem new_clean (hnew : UnifiedRuntime.new plan injector = .ok rt₀) (options : LoopOptions)
    (focused : Bool) : Clean (.new options focused rt₀) := by
  have hbuilt := UnifiedRuntime.new_built hnew
  refine ⟨fun _ => ⟨hbuilt.held, fun c => ?_⟩, fun hactive => ⟨rfl, fun _ => hactive⟩⟩
  change rt₀.engine.state.isActive c = false
  simp [hbuilt.engine, TouchEngine.new, TouchState.isActive_eq]

/-- **Whatever the loop did**, over an injector that accepts every frame: released input leaves
no contact down and no key, modifier, layer or button held, and captured input was not
released by hand and has the focus while the focus is protected. -/
theorem released_input_is_clean (hinjector : NeverFails I)
    (hnew : UnifiedRuntime.new plan injector = .ok rt₀) {focused : Bool}
    {steps : List (LoopEvent × Moment)}
    (hrun : runEventLoop options moment steps (.new options focused rt₀) = .ok () loop) :
    (loop.inputActive = false →
      (∀ c, loop.runtime.engine.state.isActive c = false) ∧
      loop.runtime.held.heldKeys = .EMPTY ∧ loop.runtime.held.heldModifiers = .EMPTY ∧
      loop.runtime.held.activeLayers = 0 ∧ loop.runtime.held.heldMouseButtons = 0) ∧
    (loop.inputActive = true → loop.manuallyReleased = false ∧
      (loop.focusProtected = true → loop.waydroidFocused = true)) := by
  have hclean : wp (runEventLoop options moment steps) (fun _ loop' => Clean loop')
      (fun _ _ => True) (.new options focused rt₀) := by
    rw [runEventLoop, wp_bind]
    refine wp_mono (enter_clean (new_clean hnew options focused)) ?_ fun _ _ _ => trivial
    exact fun _ loop₀ h₀ => wp_runAll (fun e _ h => step_clean hinjector e h) steps h₀
  have hclean := wp_ok hclean hrun
  refine ⟨fun hreleased => ?_, hclean.captured⟩
  obtain ⟨hheld, hup⟩ := hclean.released hreleased
  rw [hheld]
  exact ⟨hup, rfl, rfl, rfl, rfl⟩

/-- The steps of the turns `turns`, all in a calm moment. -/
def calmSteps (turns : List Turn) : List (LoopEvent × Moment) :=
  (turns.flatMap Turn.events).map fun event => (event, .calm 0)

/-- A turn that receives a batch of keys. -/
def keysTurn (keys : List HostKey) : Turn :=
  ⟨[], false, .keyboard (keys.map fun key => ⟨key, .pressed⟩)⟩

/-- With `w` held, the window of `shooter` loses the focus. -/
theorem shooter_released_clean : ∃ plan rt₀ loop,
    UnifiedRuntime.new plan () = .ok rt₀ ∧
      runEventLoop ⟨true, true⟩ (.calm 0)
        (calmSteps [keysTurn [.named .w], ⟨[.changed false], false, .timeout⟩])
        (.new ⟨true, true⟩ true rt₀) = .ok () loop ∧
      loop.inputActive = false ∧ ∀ c, loop.runtime.engine.state.isActive c = false := by
  obtain ⟨rt₀, hlaunch, hrun⟩ := (Option.any_eq_true _ _).mp (by decide +kernel :
    (UnifiedRuntime.launch UnifiedRuntime.shooter ⟨1280, 720⟩ ()).any (fun rt₀ =>
      returnsWith (fun loop => !loop.inputActive) (runEventLoop ⟨true, true⟩ (.calm 0)
        (calmSteps [keysTurn [.named .w], ⟨[.changed false], false, .timeout⟩]))
        (.new ⟨true, true⟩ true rt₀)) = true)
  obtain ⟨plan, -, hnew⟩ := UnifiedRuntime.exists_of_launch hlaunch
  obtain ⟨⟨⟩, loop, hrun, hreleased⟩ := exists_of_returnsWith hrun
  have hreleased : loop.inputActive = false := by simpa using hreleased
  exact ⟨plan, rt₀, loop, hnew, hrun, hreleased,
    ((released_input_is_clean neverFails_unit hnew hrun).1 hreleased).1⟩

end EventLoop

end Wroid
