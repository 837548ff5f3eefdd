import Wroid.Session.Runtime

/-!
# Movement keys

How `wroid-input` turns the events of a keyboard into a direction: W, A, S and D are followed
one by one, repeats and events that change nothing are dropped.

## Main definitions

* `MovementKey`, `HostKey.movementKey` — the keys that steer, and Esc.
* `DirectionalKeyState.apply`, `releaseAll` — the normaliser.
* `heldAfter`, `directionOf events` — the direction of the keys whose last transition was a press.

## Main results

* `apply_current` — one event.
* `apply_directionOf` — **after any events the state is the direction of the keys whose last
  transition was a press**.
* `apply_action` — what the answer to an event says about the keys.
-/

namespace Wroid

/-- Logical movement keys. -/
inductive MovementKey
  | up
  | left
  | down
  | right
  | exit
  deriving DecidableEq, Repr

namespace HostKey

def profileName : HostKey → String
  | .named key => key.profileName
  | .f12 => "f12"

def movementKey : HostKey → Option MovementKey
  | .named .w => some .up
  | .named .a => some .left
  | .named .s => some .down
  | .named .d => some .right
  | .named .esc => some .exit
  | _ => none

end HostKey

/-- One movement-specific keyboard event. -/
structure KeyboardEvent where
  key : MovementKey
  transition : KeyTransition
  deriving DecidableEq, Repr

def HostKeyEvent.movementEvent (event : HostKeyEvent) : Option KeyboardEvent :=
  event.key.movementKey.map fun key => ⟨key, event.transition⟩

/-- Result of applying a keyboard event to the movement state machine. -/
inductive KeyboardAction
  | directionChanged (input : DirectionalInput)
  | exitRequested
  | ignored
  deriving DecidableEq, Repr

/-- The movement keys that are down. -/
structure DirectionalKeyState where
  current : DirectionalInput
  deriving DecidableEq, Repr

namespace DirectionalInput

/-- Whether the direction has the key of it; Esc is no part of a direction. -/
def get (input : DirectionalInput) : MovementKey → Bool
  | .up => input.up
  | .left => input.left
  | .down => input.down
  | .right => input.right
  | .exit => false

def set (input : DirectionalInput) (key : MovementKey) (pressed : Bool) : DirectionalInput :=
  match key with
  | .up => { input with up := pressed }
  | .left => { input with left := pressed }
  | .down => { input with down := pressed }
  | .right => { input with right := pressed }
  | .exit => input

theorem get_set {input : DirectionalInput} {key : MovementKey} (hkey : key ≠ .exit)
    (pressed : Bool) (other : MovementKey) :
    (input.set key pressed).get other = if key = other then pressed else input.get other := by
  cases key with
  | exit => exact absurd rfl hkey
  | up => cases other <;> rfl
  | left => cases other <;> rfl
  | down => cases other <;> rfl
  | right => cases other <;> rfl

@[simp] theorem get_neutral (key : MovementKey) : neutral.get key = false := by
  cases key <;> rfl

theorem get_exit (input : DirectionalInput) : input.get .exit = false := rfl

theorem ext_get {input input' : DirectionalInput} (h : ∀ key, input.get key = input'.get key) :
    input = input' := by
  cases input
  cases input'
  rw [mk.injEq]
  exact ⟨h .up, h .left, h .down, h .right⟩

theorem set_get (input : DirectionalInput) (key : MovementKey) :
    input.set key (input.get key) = input := by
  cases key <;> rfl

end DirectionalInput

/-- What a transition makes of a key; a repeat makes nothing of it. -/
def KeyTransition.pressed? : KeyTransition → Option Bool
  | .pressed => some true
  | .released => some false
  | .repeated => none

namespace DirectionalKeyState

def default : DirectionalKeyState := ⟨.neutral⟩

def apply (state : DirectionalKeyState) (event : KeyboardEvent) :
    DirectionalKeyState × KeyboardAction :=
  if event.key = .exit then
    match event.transition with
    | .pressed => (state, .exitRequested)
    | .released | .repeated => (state, .ignored)
  else
    match event.transition.pressed? with
    | none => (state, .ignored)
    | some pressed =>
      if state.current.get event.key = pressed then (state, .ignored)
      else
        let current := state.current.set event.key pressed
        (⟨current⟩, .directionChanged current)

/-- Releases every movement key; the neutral direction, if any was down. -/
def releaseAll (state : DirectionalKeyState) : DirectionalKeyState × Option DirectionalInput :=
  if state.current = .neutral then (state, none) else (default, some .neutral)

/-! ### The direction of the events -/

/-- Whether the key is down after the event, if it was before. -/
def steers (key : MovementKey) (held : Bool) (event : KeyboardEvent) : Bool :=
  if event.key = key then event.transition.pressed?.getD held else held

/-- Whether the last transition of the key was a press. -/
def heldAfter (events : List KeyboardEvent) (key : MovementKey) : Bool :=
  events.foldl (steers key) false

/-- The direction of the keys whose last transition was a press. -/
def directionOf (events : List KeyboardEvent) : DirectionalInput :=
  ⟨heldAfter events .up, heldAfter events .left, heldAfter events .down, heldAfter events .right⟩

@[simp] theorem directionOf_nil : directionOf [] = .neutral := rfl

theorem heldAfter_concat (events : List KeyboardEvent) (event : KeyboardEvent)
    (key : MovementKey) :
    heldAfter (events ++ [event]) key = steers key (heldAfter events key) event := by
  rw [heldAfter, List.foldl_append]
  rfl

theorem get_directionOf (events : List KeyboardEvent) {key : MovementKey} (hkey : key ≠ .exit) :
    (directionOf events).get key = heldAfter events key := by
  cases key with
  | exit => exact absurd rfl hkey
  | up => rfl
  | left => rfl
  | down => rfl
  | right => rfl

/-- **What one event makes of the keys.** -/
theorem apply_current (state : DirectionalKeyState) (event : KeyboardEvent) {key : MovementKey}
    (hkey : key ≠ .exit) :
    (state.apply event).1.current.get key = steers key (state.current.get key) event := by
  unfold apply steers
  by_cases hexit : event.key = .exit
  · rw [if_pos hexit, if_neg fun heq => hkey (heq.symm.trans hexit)]
    cases event.transition <;> rfl
  · rw [if_neg hexit]
    cases hpressed : event.transition.pressed? with
    | none => simp
    | some pressed =>
      by_cases hsame : state.current.get event.key = pressed
      · simp only [if_pos hsame, Option.getD_some]
        split
        · next heq => rw [← heq, hsame]
        · rfl
      · simp only [if_neg hsame, Option.getD_some, DirectionalInput.get_set hexit]

/-- **After any events the state is the direction of the keys whose last transition was a
press.** -/
theorem apply_directionOf {state : DirectionalKeyState} {events : List KeyboardEvent}
    (h : state.current = directionOf events) (event : KeyboardEvent) :
    (state.apply event).1.current = directionOf (events ++ [event]) := by
  apply DirectionalInput.ext_get
  intro key
  by_cases hkey : key = .exit
  · rw [hkey]
    rfl
  · rw [apply_current state event hkey, h, get_directionOf _ hkey, get_directionOf _ hkey,
      heldAfter_concat]

/-- What the answer to an event says about the keys. -/
theorem apply_action {state state' : DirectionalKeyState} {event : KeyboardEvent}
    {action : KeyboardAction} (h : state.apply event = (state', action)) :
    (∃ input, action = .directionChanged input ∧ state'.current = input) ∨
      (action ≠ .exitRequested ∧ (∀ input, action ≠ .directionChanged input) ∧ state' = state) ∨
      action = .exitRequested ∧ state' = state ∧ event.key = .exit ∧
        event.transition = .pressed := by
  unfold apply at h
  by_cases hexit : event.key = .exit
  · rw [if_pos hexit] at h
    cases htransition : event.transition with
    | pressed =>
      rw [htransition] at h
      obtain ⟨rfl, rfl⟩ := Prod.mk.inj h
      exact .inr (.inr ⟨rfl, rfl, hexit, rfl⟩)
    | released =>
      rw [htransition] at h
      obtain ⟨rfl, rfl⟩ := Prod.mk.inj h
      exact .inr (.inl ⟨by decide, by simp, rfl⟩)
    | repeated =>
      rw [htransition] at h
      obtain ⟨rfl, rfl⟩ := Prod.mk.inj h
      exact .inr (.inl ⟨by decide, by simp, rfl⟩)
  · rw [if_neg hexit] at h
    cases hpressed : event.transition.pressed? with
    | none =>
      rw [hpressed] at h
      obtain ⟨rfl, rfl⟩ := Prod.mk.inj h
      exact .inr (.inl ⟨by decide, by simp, rfl⟩)
    | some pressed =>
      simp only [hpressed] at h
      split at h
      · obtain ⟨rfl, rfl⟩ := Prod.mk.inj h
        exact .inr (.inl ⟨by decide, by simp, rfl⟩)
      · obtain ⟨rfl, rfl⟩ := Prod.mk.inj h
        exact .inl ⟨_, rfl, rfl⟩

end DirectionalKeyState

end Wroid
