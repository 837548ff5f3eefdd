import Wroid.Core.ControlProfile
import Wroid.Lib.Fallible
import Wroid.Lib.Repeater
import Wroid.Runtime.Joystick

/-!
# The keymapper of the terminal

`interactive.rs`: `wroid start` reads keys from the terminal and sends taps and swipes.  A cluster
of four keys bound to a virtual joystick swipes at once when its stick is pushed, and again each
tick while it stays pushed.

Keys are compared after `normalize_key`, which uses `str::to_lowercase`; `lower` stands for it, and
nothing is assumed of it.  What is sent is kept in a list, and each sending may fail, in a way that
may depend on all that was sent before.  Messages and the raw mode of the terminal are left out.

## Main definitions

* `JoystickRuntime.fromBindings`, `handleKeyEvent`, `dueSwipes`, `pollTimeout` — the joysticks.
* `joystickTargetPoint` — where a push of the stick ends.
* `resolveKeyBinding` — the binding of any other key.
* `startInteractiveKeymapper` — the loop.

## Main results

* `joystickTargetPoint_eq` — the formula of the source, over the reals.
* `fromBindings_eq` — the joysticks of a profile, one by one.
-/

namespace Wroid

open Lib

namespace Interactive

/-! ### Keys of the terminal -/

inductive KeyEventKind
  | press
  | repeat
  | release
  deriving DecidableEq, Repr

inductive KeyCode
  | char (character : Char)
  | enter
  | tab
  | backTab
  | backspace
  | delete
  | insert
  | home
  | endKey
  | pageUp
  | pageDown
  | up
  | down
  | left
  | right
  | f (number : ℕ)
  | esc
  | null
  | capsLock
  | scrollLock
  | numLock
  | printScreen
  | pause
  | menu
  | keypadBegin
  | media (code : ℕ)
  | modifier (code : ℕ)
  deriving DecidableEq, Repr

structure KeyEvent where
  code : KeyCode
  /-- Whether the modifiers contain `CONTROL`. -/
  control : Bool
  kind : KeyEventKind
  deriving DecidableEq, Repr

def keyEventName : KeyCode → Option String
  | .char character => some (String.singleton character)
  | .enter => some "enter"
  | .tab => some "tab"
  | .backTab => some "backtab"
  | .backspace => some "backspace"
  | .delete => some "delete"
  | .insert => some "insert"
  | .home => some "home"
  | .endKey => some "end"
  | .pageUp => some "pageup"
  | .pageDown => some "pagedown"
  | .up => some "up"
  | .down => some "down"
  | .left => some "left"
  | .right => some "right"
  | .f number => some s!"f{number}"
  | .esc => none
  | .null => none
  | .capsLock => none
  | .scrollLock => none
  | .numLock => none
  | .printScreen => none
  | .pause => none
  | .menu => none
  | .keypadBegin => none
  | .media _ => none
  | .modifier _ => none

def shouldExitKey (event : KeyEvent) : Bool :=
  event.code == .esc || (event.code == .char 'c' && event.control)

def normalizeKey (lower : String → String) (key : String) : String := lower (trim rustBlank key)

/-! ### Where the stick is pushed -/

inductive JoystickDirection
  | up
  | left
  | down
  | right
  deriving DecidableEq, Repr

structure JoystickKeyState where
  up : Bool
  left : Bool
  down : Bool
  right : Bool
  deriving DecidableEq, Repr

namespace JoystickKeyState

def default : JoystickKeyState := ⟨false, false, false, false⟩

def set (keys : JoystickKeyState) (direction : JoystickDirection) (isPressed : Bool) :
    JoystickKeyState :=
  match direction with
  | .up => { keys with up := isPressed }
  | .left => { keys with left := isPressed }
  | .down => { keys with down := isPressed }
  | .right => { keys with right := isPressed }

def dx (keys : JoystickKeyState) : ℤ := DirectionalInput.axis keys.left keys.right

def dy (keys : JoystickKeyState) : ℤ := DirectionalInput.axis keys.up keys.down

end JoystickKeyState

def offsetAxis (value : ℕ) (offset : ℤ) : ℕ :=
  if value + offset ≤ 0 then 0 else (min (value + offset) u32Max).toNat

/-- The length of the push along an axis: along both axes it is `radius / √2`, rounded. -/
def reach (radius : ℕ) (keys : JoystickKeyState) : ℕ :=
  if keys.dx ≠ 0 ∧ keys.dy ≠ 0 then ((2 * radius ^ 2).sqrt + 1) / 2 else radius

def joystickTargetPoint (center : Point) (radius : ℕ) (keys : JoystickKeyState) : Option Point :=
  if keys.dx = 0 ∧ keys.dy = 0 then none
  else
    some ⟨offsetAxis center.x (keys.dx * reach radius keys),
      offsetAxis center.y (keys.dy * reach radius keys)⟩

/-- `joystick_target_point` as the source has it, over the reals. -/
noncomputable def realTargetPoint (center : Point) (radius : ℕ) (keys : JoystickKeyState) :
    Option Point :=
  let dx := keys.dx
  let dy := keys.dy
  if dx = 0 ∧ dy = 0 then none
  else
    let length : ℝ := √((dx * dx + dy * dy : ℤ) : ℝ)
    some ⟨offsetAxis center.x (VirtualJoystick.roundReal (dx / length * radius)),
      offsetAxis center.y (VirtualJoystick.roundReal (dy / length * radius))⟩

/-- **The integer formula is the formula of the source.** -/
theorem joystickTargetPoint_eq (center : Point) (radius : ℕ) (keys : JoystickKeyState) :
    realTargetPoint center radius keys = joystickTargetPoint center radius keys := by
  have hsigned : ∀ s : ℤ, s = -1 ∨ s = 0 ∨ s = 1 → ∀ (x : ℝ) (n : ℕ),
      VirtualJoystick.roundReal x = n → VirtualJoystick.roundReal (s * x) = s * n := by
    intro s hs x n hx
    rcases hs with rfl | rfl | rfl
    · rw [Int.cast_neg, Int.cast_one, neg_one_mul, VirtualJoystick.roundReal_neg, hx, neg_one_mul]
    · norm_num [VirtualJoystick.roundReal]
    · rw [Int.cast_one, one_mul, one_mul, hx]
  have hdx : keys.dx = -1 ∨ keys.dx = 0 ∨ keys.dx = 1 := DirectionalInput.axis_cases _ _
  have hdy : keys.dy = -1 ∨ keys.dy = 0 ∨ keys.dy = 1 := DirectionalInput.axis_cases _ _
  unfold realTargetPoint joystickTargetPoint
  by_cases hneutral : keys.dx = 0 ∧ keys.dy = 0
  · rw [if_pos hneutral]
    exact (if_pos hneutral).symm
  rw [if_neg hneutral]
  -- along one axis the length is 1, along both it is √2
  have haxis : ∀ s : ℤ, s = -1 ∨ s = 0 ∨ s = 1 →
      VirtualJoystick.roundReal (s / √((keys.dx * keys.dx + keys.dy * keys.dy : ℤ) : ℝ) * radius) =
        s * reach radius keys := by
    intro s hs
    unfold reach
    split
    next hboth =>
      have hlength : keys.dx * keys.dx + keys.dy * keys.dy = 2 := by
        rcases hdx with h | h | h <;> rcases hdy with h' | h' | h' <;> simp_all
      rw [hlength, Int.cast_ofNat, ← hsigned s hs _ _ (VirtualJoystick.roundReal_div_sqrt_two radius)]
      congr 1
      ring
    next hone =>
      have hlength : keys.dx * keys.dx + keys.dy * keys.dy = 1 := by
        rcases hdx with h | h | h <;> rcases hdy with h' | h' | h' <;> simp_all
      rw [hlength, Int.cast_one, Real.sqrt_one, div_one]
      exact hsigned s hs _ _ (VirtualJoystick.roundReal_natCast radius)
  simp only [haxis _ hdx, haxis _ hdy]
  exact (if_neg hneutral).symm

/-! ### The joysticks -/

structure JoystickBindingRuntime where
  name : String
  center : Point
  radius : ℕ
  tickMs : ℕ
  swipeDurationMs : ℕ
  keys : JoystickKeyState
  nextTick : Option ℕ

/-- The joysticks, and what the keys move.  The entries of a key are in the order in which they were
added; each is of a joystick there is, so that the indexing of the source does not panic. -/
structure JoystickRuntime where
  bindings : List JoystickBindingRuntime
  keyMap : List (String × ℕ × JoystickDirection)
  indexed : ∀ entry ∈ keyMap, entry.2.1 < bindings.length

/-- A swipe or a tap that is sent. -/
inductive Gesture
  | tap (point : Point)
  | swipe (start target : Point) (durationMs : ℕ)
  deriving DecidableEq, Repr

/-- `Duration::from_millis`, in nanoseconds as every time here. -/
def fromMillis (millis : ℕ) : ℕ := millis * 1000000

namespace JoystickBindingRuntime

def target (binding : JoystickBindingRuntime) : Option Point :=
  joystickTargetPoint binding.center binding.radius binding.keys

/-- The change of one direction. -/
def setKey (binding : JoystickBindingRuntime) (direction : JoystickDirection) (isPressed : Bool)
    (now : ℕ) : JoystickBindingRuntime :=
  let binding := { binding with keys := binding.keys.set direction isPressed }
  { binding with nextTick := if binding.target.isSome then some (binding.nextTick.getD now) else none }

/-- One joystick in `due_swipes`. -/
def dueSwipe (binding : JoystickBindingRuntime) (now : ℕ) :
    JoystickBindingRuntime × List Gesture :=
  match binding.nextTick with
  | none => (binding, [])
  | some nextTick =>
    if now < nextTick then (binding, [])
    else
      match binding.target with
      | some target =>
        ({ binding with nextTick := some (now + fromMillis binding.tickMs) },
          [.swipe binding.center target binding.swipeDurationMs])
      | none => ({ binding with nextTick := none }, [])

end JoystickBindingRuntime

namespace JoystickRuntime

def empty : JoystickRuntime := ⟨[], [], fun _ h => by cases h⟩

/-- The entries of a joystick. -/
def entries (lower : String → String) (index : ℕ) (up left down right : String) :
    List (String × ℕ × JoystickDirection) :=
  [(normalizeKey lower up, index, .up), (normalizeKey lower left, index, .left),
    (normalizeKey lower down, index, .down), (normalizeKey lower right, index, .right)]

theorem index_of_mem_entries {lower : String → String} {index : ℕ} {up left down right : String}
    {entry : String × ℕ × JoystickDirection} (h : entry ∈ entries lower index up left down right) :
    entry.2.1 = index := by
  simp only [entries, List.mem_cons, List.not_mem_nil, or_false] at h
  rcases h with rfl | rfl | rfl | rfl <;> rfl

/-- A joystick is added, with its four keys. -/
def push (lower : String → String) (runtime : JoystickRuntime) (binding : JoystickBindingRuntime)
    (up left down right : String) : JoystickRuntime where
  bindings := runtime.bindings ++ [binding]
  keyMap := runtime.keyMap ++ entries lower runtime.bindings.length up left down right
  indexed entry h := by
    rw [List.length_append, List.length_singleton, Nat.lt_succ_iff]
    rcases List.mem_append.mp h with hold | hnew
    · exact (runtime.indexed entry hold).le
    · exact (index_of_mem_entries hnew).le

def addBinding (lower : String → String) (runtime : JoystickRuntime) (binding : Binding) :
    JoystickRuntime :=
  match binding.input, binding.action with
  | .keyCluster up left down right, .virtualJoystick center radius tickMs swipeDurationMs =>
    runtime.push lower ⟨binding.name, center, radius, tickMs, swipeDurationMs, .default, none⟩ up left
      down right
  | _, _ => runtime

def fromBindings (lower : String → String) (bindings : List Binding) : JoystickRuntime :=
  bindings.foldl (addBinding lower) empty

/-- What a key moves. -/
def mapped (lower : String → String) (runtime : JoystickRuntime) (key : String) :
    List (ℕ × JoystickDirection) :=
  runtime.keyMap.filterMap fun entry =>
    if entry.1 = normalizeKey lower key then some entry.2 else none

/-- One entry of a key. -/
def setKey (isPressed : Bool) (now : ℕ) (runtime : JoystickRuntime) (entry : ℕ × JoystickDirection) :
    JoystickRuntime where
  bindings := runtime.bindings.modify entry.1 fun binding => binding.setKey entry.2 isPressed now
  keyMap := runtime.keyMap
  indexed := by simpa only [List.length_modify] using runtime.indexed

/-- The joysticks after the event of a key, when it moves any. -/
def handleKeyEvent (lower : String → String) (runtime : JoystickRuntime) (key : String)
    (kind : KeyEventKind) (now : ℕ) : Option JoystickRuntime :=
  match runtime.mapped lower key with
  | [] => none
  | mapped => some (mapped.foldl (setKey (kind != .release) now) runtime)

def pollTimeout (runtime : JoystickRuntime) (now idleTimeout : ℕ) : ℕ :=
  match (runtime.bindings.filterMap fun binding => binding.nextTick.map (· - now)).min? with
  | some duration => min duration idleTimeout
  | none => idleTimeout

def dueSwipes (runtime : JoystickRuntime) (now : ℕ) : JoystickRuntime × List Gesture where
  fst :=
    { bindings := runtime.bindings.map fun binding => (binding.dueSwipe now).1
      keyMap := runtime.keyMap
      indexed := by simpa only [List.length_map] using runtime.indexed }
  snd := runtime.bindings.flatMap fun binding => (binding.dueSwipe now).2

end JoystickRuntime

/-! ### The other keys -/

/-- The keys of a binding, if it is one of the keyboard. -/
def keyboardKeys : BindingInput → List String
  | .key key => [key]
  | .keyCluster up left down right => [up, left, down, right]
  | .mouseButton _ => []

def resolveKeyBinding (lower : String → String) (bindings : List Binding) (key : String) :
    Option Binding :=
  bindings.find? fun binding =>
    (keyboardKeys binding.input).any fun bound => normalizeKey lower bound = normalizeKey lower key

/-- What the action of a binding sends; a joystick and an unsupported action send nothing. -/
def actionGestures : BindingAction → List Gesture
  | .tap point => [.tap point]
  | .swipe start target durationMs => [.swipe start target durationMs]
  | .virtualJoystick .. => []
  | .mouseAim _ => []
  | .steps _ => []

/-! ### The loop -/

structure Keymapper where
  joysticks : JoystickRuntime
  /-- What was handed to the backend, the failed one included. -/
  sent : List Gesture

/-- Why the loop ends. -/
inductive LoopEnd
  | exited
  | failed (message : String)
  deriving DecidableEq, Repr

abbrev KeymapperM := EStateM LoopEnd Keymapper

/-- What the loop is about: the profile, and the backend, which accepts a gesture or fails. -/
structure Session where
  lower : String → String
  profile : ControlProfile
  accepts : List Gesture → Gesture → Bool

variable (session : Session)

/-- `execute_tap` and `execute_swipe`. -/
def execute (gesture : Gesture) : KeymapperM Unit := do
  let sent := (← get).sent
  modify fun s => { s with sent := sent ++ [gesture] }
  if session.accepts sent gesture then pure () else throw (.failed "the backend failed")

/-- A step of the loop. -/
inductive LoopStep
  | key (event : KeyEvent) (now : ℕ)
  | failed (message : String)
  | swipes (now : ℕ)

/-- What the terminal has for a turn. -/
inductive Received
  /-- Nothing until the timeout, or an event of another kind. -/
  | nothing
  | key (event : KeyEvent) (now : ℕ)
  | failed (message : String)

structure LoopTurn where
  received : Received
  /-- The reading of the clock for the swipes. -/
  now : ℕ

def Received.steps : Received → List LoopStep
  | .nothing => []
  | .key event now => [.key event now]
  | .failed message => [.failed message]

def LoopTurn.steps (turn : LoopTurn) : List LoopStep := turn.received.steps ++ [.swipes turn.now]

def handleKey (event : KeyEvent) (now : ℕ) : KeymapperM Unit := do
  if shouldExitKey event then throw .exited
  match keyEventName event.code with
  | none => pure ()
  | some key =>
    match (← get).joysticks.handleKeyEvent session.lower key event.kind now with
    | some joysticks => modify fun s => { s with joysticks }
    | none =>
      if event.kind ≠ .release then
        match resolveKeyBinding session.lower session.profile.bindings key with
        | some binding => runAll (execute session) (actionGestures binding.action)
        | none => pure ()

def sendSwipes (now : ℕ) : KeymapperM Unit := do
  let (joysticks, swipes) := (← get).joysticks.dueSwipes now
  modify fun s => { s with joysticks }
  runAll (execute session) swipes

def step : LoopStep → KeymapperM Unit
  | .key event now => handleKey session event now
  | .failed message => throw (.failed message)
  | .swipes now => sendSwipes session now

def start : Keymapper := ⟨.fromBindings session.lower session.profile.bindings, []⟩

/-- `start_interactive_keymapper`, as far as the turns go. -/
def startInteractiveKeymapper (turns : List LoopTurn) : KeymapperM Unit :=
  runAll (step session) (turns.flatMap LoopTurn.steps)

/-- The joystick of a test of the source: `w` and `d` together push it along the diagonal. -/
example : joystickTargetPoint ⟨320, 640⟩ 120 ⟨true, false, false, true⟩ = some ⟨405, 555⟩ := by
  decide +kernel

/-! ### The joysticks of a profile -/

/-- A joystick as the profile has it. -/
structure Stick where
  name : String
  center : Point
  radius : ℕ
  tickMs : ℕ
  swipeDurationMs : ℕ
  up : String
  left : String
  down : String
  right : String

namespace Stick

/-- The keys of a joystick with their directions. -/
def keys (stick : Stick) : List (String × JoystickDirection) :=
  [(stick.up, .up), (stick.left, .left), (stick.down, .down), (stick.right, .right)]

/-- The joystick before any key. -/
def fresh (stick : Stick) : JoystickBindingRuntime :=
  ⟨stick.name, stick.center, stick.radius, stick.tickMs, stick.swipeDurationMs, .default, none⟩

/-- The directions in which a key pushes the joystick. -/
def directions (lower : String → String) (stick : Stick) (key : String) : List JoystickDirection :=
  stick.keys.filterMap fun bound =>
    if normalizeKey lower bound.1 = normalizeKey lower key then some bound.2 else none

end Stick

def stickOf (binding : Binding) : Option Stick :=
  match binding.input, binding.action with
  | .keyCluster up left down right, .virtualJoystick center radius tickMs swipeDurationMs =>
    some ⟨binding.name, center, radius, tickMs, swipeDurationMs, up, left, down, right⟩
  | _, _ => none

/-- The joysticks of a profile. -/
def sticks (bindings : List Binding) : List Stick := bindings.filterMap stickOf

variable {lower : String → String}

theorem addBinding_eq (runtime : JoystickRuntime) (binding : Binding) :
    runtime.addBinding lower binding =
      match stickOf binding with
      | some stick => runtime.push lower stick.fresh stick.up stick.left stick.down stick.right
      | none => runtime := by
  unfold JoystickRuntime.addBinding stickOf
  split <;> rfl

/-- The entries of the joysticks from an index on. -/
def keyEntries (lower : String → String) (index : ℕ) (sticks : List Stick) :
    List (String × ℕ × JoystickDirection) :=
  (sticks.zipIdx index).flatMap fun entry =>
    JoystickRuntime.entries lower entry.2 entry.1.up entry.1.left entry.1.down entry.1.right

theorem keyEntries_append (index : ℕ) (left right : List Stick) :
    keyEntries lower index (left ++ right) =
      keyEntries lower index left ++ keyEntries lower (index + left.length) right := by
  rw [keyEntries, List.zipIdx_append, List.flatMap_append]
  rfl

/-- **The joysticks of a profile**, each as it is before any key. -/
theorem fromBindings_eq (bindings : List Binding) :
    (JoystickRuntime.fromBindings lower bindings).bindings = (sticks bindings).map Stick.fresh ∧
      (JoystickRuntime.fromBindings lower bindings).keyMap =
        keyEntries lower 0 (sticks bindings) := by
  induction bindings using List.reverseRecOn with
  | nil => exact ⟨rfl, rfl⟩
  | append_singleton bindings binding ih =>
    have hrun : JoystickRuntime.fromBindings lower (bindings ++ [binding]) =
        (JoystickRuntime.fromBindings lower bindings).addBinding lower binding := by
      rw [JoystickRuntime.fromBindings, List.foldl_append]
      rfl
    have hsticks : sticks (bindings ++ [binding]) = sticks bindings ++ (stickOf binding).toList := by
      rw [sticks, List.filterMap_append]
      cases h : stickOf binding <;> simp [sticks, h]
    rw [hrun, hsticks, addBinding_eq]
    cases stickOf binding with
    | none =>
      rw [Option.toList_none, List.append_nil]
      exact ih
    | some stick =>
      obtain ⟨hbindings, hkeys⟩ := ih
      rw [Option.toList_some, List.map_append, keyEntries_append]
      constructor
      · exact congrArg (· ++ [stick.fresh]) hbindings
      · have hlength : (JoystickRuntime.fromBindings lower bindings).bindings.length =
            0 + (sticks bindings).length := by rw [hbindings, List.length_map, Nat.zero_add]
        refine congrArg₂ (· ++ ·) hkeys ?_
        rw [hlength, keyEntries, List.zipIdx_singleton, List.flatMap_singleton]

end Interactive

end Wroid
