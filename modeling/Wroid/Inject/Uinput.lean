import Wroid.Lib.Text
import Wroid.Lib.MultiTouch
import Wroid.Runtime.Touch

/-!
# The uinput injector

`wroid-inject` keeps a fixed table of multitouch slots.  A frame is first applied to a copy
of the table, then translated to Linux input events and written in one batch; only when the
write succeeded does the copy become the table.

## Main definitions

* `DeviceConfig` — a device name, a surface size and a slot count, all within limits.
* `SlotState` — the slot table.
* `UinputTouchInjector.nextState`, `injectFrame` — the translation of a frame.
* `ScriptedSink` — an event sink whose writes fail in a given pattern.
-/

namespace Wroid

open Lib

def DEFAULT_SLOT_COUNT : ℕ := 10
def MAX_SLOT_COUNT : ℕ := 32
def WROID_TOUCHSCREEN_NAME : String := "Wroid Gaming Touchscreen"
def MAX_DEVICE_NAME_LEN : ℕ := 78

inductive DeviceConfigError
  | emptyName
  | nameTooLong (length max : ℕ)
  | invalidWidth (width : ℕ)
  | invalidHeight (height : ℕ)
  | invalidSlotCount (slotCount max : ℕ)
  deriving DecidableEq, Repr

/-- A device description.  The fields are private to the crate, so the checks of
`withNameAndSlots` hold of every value. -/
structure DeviceConfig where
  name : String
  width : ℕ
  height : ℕ
  slotCount : ℕ
  name_nonempty : trim rustBlank name ≠ ""
  name_length : name.utf8ByteSize ≤ MAX_DEVICE_NAME_LEN
  width_range : width ≠ 0 ∧ width ≤ i32Max
  height_range : height ≠ 0 ∧ height ≤ i32Max
  slotCount_range : 1 ≤ slotCount ∧ slotCount ≤ MAX_SLOT_COUNT

namespace DeviceConfig

def withNameAndSlots (name : String) (width height slotCount : ℕ) :
    Except DeviceConfigError DeviceConfig :=
  if hname : trim rustBlank name = "" then .error .emptyName
  else if hlen : MAX_DEVICE_NAME_LEN < name.utf8ByteSize then
    .error (.nameTooLong name.utf8ByteSize MAX_DEVICE_NAME_LEN)
  else if hwidth : width = 0 ∨ i32Max < width then .error (.invalidWidth width)
  else if hheight : height = 0 ∨ i32Max < height then .error (.invalidHeight height)
  else if hslots : ¬ (1 ≤ slotCount ∧ slotCount ≤ MAX_SLOT_COUNT) then
    .error (.invalidSlotCount slotCount MAX_SLOT_COUNT)
  else
    .ok ⟨name, width, height, slotCount, hname, by omega, by omega, by omega, by omega⟩

def withSlots (width height slotCount : ℕ) : Except DeviceConfigError DeviceConfig :=
  withNameAndSlots WROID_TOUCHSCREEN_NAME width height slotCount

def new (width height : ℕ) : Except DeviceConfigError DeviceConfig :=
  withNameAndSlots WROID_TOUCHSCREEN_NAME width height DEFAULT_SLOT_COUNT

def resolution (config : DeviceConfig) : Resolution := ⟨config.width, config.height⟩

end DeviceConfig

inductive UinputFrameError
  | emptyFrame
  | contactAlreadyActive (contactId : ContactId)
  | contactNotActive (contactId : ContactId)
  | noFreeSlot (contactId : ContactId)
  | coordinateOutOfRange (contactId : ContactId) (x y width height : ℕ)
  | emit (source : String)
  deriving DecidableEq, Repr

/-- The text of the error. -/
def UinputFrameError.display : UinputFrameError → String
  | .emptyFrame => "uinput touch frame must contain at least one event"
  | .contactAlreadyActive contactId =>
    s!"contact {contactId} is already assigned to a uinput slot"
  | .contactNotActive contactId => s!"contact {contactId} has no active uinput slot"
  | .noFreeSlot contactId => s!"no free uinput slot is available for contact {contactId}"
  | .coordinateOutOfRange contactId x y width height =>
    s!"contact {contactId} coordinate ({x}, {y}) exceeds touch surface {width}x{height}"
  | .emit _ => "failed to emit uinput event batch"

/-- Receives the events of one frame. -/
class EventSink (S : Type) where
  emit : List InputEvent → EStateM String S Unit

/-- The sink that accepts every batch and forgets it. -/
instance : EventSink Unit := ⟨fun _ => pure ()⟩

/-! ### The slot table -/

structure Slot where
  contactId : Option ContactId
  x : ℕ
  y : ℕ
  deriving DecidableEq, Repr

/-- A slot without a contact. -/
def Slot.free : Slot := ⟨none, 0, 0⟩

/-- The slots in use; the code has an array of `MAX_SLOT_COUNT` and only ever looks at its
first `slot_count` entries. -/
structure SlotState where
  slots : List Slot
  activeCount : ℕ
  deriving DecidableEq, Repr

namespace SlotState

def new (slotCount : ℕ) : SlotState := ⟨List.replicate slotCount .free, 0⟩

def activeSlot (st : SlotState) (c : ContactId) : Option ℕ :=
  st.slots.findIdx? fun slot => slot.contactId == some c

def freeSlot (st : SlotState) : Option ℕ :=
  st.slots.findIdx? fun slot => slot.contactId.isNone

def primaryPosition (st : SlotState) : Option (ℕ × ℕ) :=
  (st.slots.find? fun slot => slot.contactId.isSome).map fun slot => (slot.x, slot.y)

end SlotState

/-! ### The injector -/

structure UinputTouchInjector (S : Type) where
  config : DeviceConfig
  sink : S
  state : SlotState

/-- An `as i32` cast of an unsigned value. -/
def asI32 (n : ℕ) : ℤ := Int.bmod n (2 ^ 32)

namespace UinputTouchInjector

def withSink {S : Type} (config : DeviceConfig) (sink : S) : UinputTouchInjector S :=
  ⟨config, sink, .new config.slotCount⟩

def validatePosition (config : DeviceConfig) (event : TouchEvent) :
    Except UinputFrameError Unit :=
  if config.width ≤ event.position.x ∨ config.height ≤ event.position.y then
    .error (.coordinateOutOfRange event.contactId event.position.x event.position.y
      config.width config.height)
  else .ok ()

/-- One iteration of the loop of `next_state`. -/
def nextStateEvent (config : DeviceConfig) (next : SlotState) (event : TouchEvent) :
    Except UinputFrameError SlotState :=
  match event.phase with
  | .down => do
    validatePosition config event
    if (next.activeSlot event.contactId).isSome then
      throw (.contactAlreadyActive event.contactId)
    match next.freeSlot with
    | none => throw (.noFreeSlot event.contactId)
    | some slot =>
      return { slots := next.slots.set slot
                 ⟨some event.contactId, event.position.x, event.position.y⟩
               activeCount := next.activeCount + 1 }
  | .move => do
    validatePosition config event
    match next.activeSlot event.contactId with
    | none => throw (.contactNotActive event.contactId)
    | some slot =>
      return { next with
        slots := next.slots.modify slot fun s =>
          { s with x := event.position.x, y := event.position.y } }
  | .up | .cancel =>
    match next.activeSlot event.contactId with
    | none => throw (.contactNotActive event.contactId)
    | some slot =>
      return { slots := next.slots.set slot .free, activeCount := next.activeCount - 1 }

def nextState (config : DeviceConfig) (state : SlotState) (frame : TouchFrame) :
    Except UinputFrameError SlotState :=
  frame.events.foldlM (nextStateEvent config) state

/-- The event that marks the first touch and the last release. -/
def touchEvents (current next : SlotState) : List InputEvent :=
  if current.activeCount = 0 ∧ 0 < next.activeCount then [⟨evKey, btnTouch, 1⟩]
  else if 0 < current.activeCount ∧ next.activeCount = 0 then [⟨evKey, btnTouch, 0⟩]
  else []

/-- The events of one contact transition.  Its slot is looked up in the table after the
frame for a `down`, and in the table before it for the others. -/
def contactEvents (current next : SlotState) (event : TouchEvent) :
    Except UinputFrameError (List InputEvent) :=
  let slot := match event.phase with
    | .down => next.activeSlot event.contactId
    | .move => (current.activeSlot event.contactId).or (next.activeSlot event.contactId)
    | .up | .cancel => current.activeSlot event.contactId
  match slot with
  | none => .error (.contactNotActive event.contactId)
  | some slot =>
    .ok <| match event.phase with
      | .down => placeEvents (asI32 slot) event.contactId (asI32 event.position.x)
          (asI32 event.position.y)
      | .move => dragEvents (asI32 slot) (asI32 event.position.x) (asI32 event.position.y)
      | .up | .cancel => liftEvents (asI32 slot)

/-- Single-touch emulation follows the lowest occupied slot. -/
def pointerEvents (next : SlotState) : List InputEvent :=
  match next.primaryPosition with
  | some (x, y) => [⟨evAbs, absX, asI32 x⟩, ⟨evAbs, absY, asI32 y⟩]
  | none => []

variable {S : Type} [EventSink S]

def injectFrame (frame : TouchFrame) : EStateM UinputFrameError (UinputTouchInjector S) Unit := do
  if frame.events.isEmpty then throw .emptyFrame
  let current ← get
  match nextState current.config current.state frame with
  | .error e => throw e
  | .ok next =>
    match frame.events.mapM (contactEvents current.state next) with
    | .error e => throw e
    | .ok events =>
      zoom sink (fun s i => { i with sink := s }) <| mapError .emit <| EventSink.emit
        (touchEvents current.state next ++ events.flatten ++ pointerEvents next)
      modify fun i => { i with state := next }

instance : TouchInjector (UinputTouchInjector S) where
  inject frame := mapError
    (fun e => ⟨"persistent uinput frame submission failed", some e.display⟩) (injectFrame frame)

end UinputTouchInjector

/-! ### A sink with a failure pattern -/

/-- A device whose `n`-th write succeeds iff `accepts n`.  What was written stays in
`emitted`, every batch followed by the report event that the evdev device adds. -/
structure ScriptedSink where
  accepts : ℕ → Bool
  writes : ℕ
  emitted : List InputEvent

def ScriptedSink.new (accepts : ℕ → Bool) : ScriptedSink := ⟨accepts, 0, []⟩

instance : EventSink ScriptedSink where
  emit events := do
    let sink ← get
    if sink.accepts sink.writes then
      set { sink with writes := sink.writes + 1,
                      emitted := sink.emitted ++ events ++ [reportEvent] }
    else
      set { sink with writes := sink.writes + 1 }
      throw "injected sink failure"

end Wroid
