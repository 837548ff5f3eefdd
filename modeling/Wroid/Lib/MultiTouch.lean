import Mathlib

/-!
# The type-B multitouch protocol

What a reader of a Linux input device makes of the events of a type-B multitouch screen.
`ABS_MT_SLOT` selects a slot, the other `ABS_MT_*` events change the selected slot, a
tracking identifier of `-1` frees it, and nothing is shown before the next `SYN_REPORT`.

## Main definitions

* `InputEvent` — one event, with the numeric codes of the Linux input interface.
* `Screen`, `Reader` — the values being collected, and those last reported.
* `Reader.readAll` — replaying a stream of events.
* `placeEvents`, `dragEvents`, `liftEvents` — the event groups that occupy, move and free a
  slot.

## Main results

* `collectAll_place`, `collectAll_drag`, `collectAll_lift` — what those groups do.
* `readAll_report` — a batch followed by `SYN_REPORT` is reported as a whole.
-/

namespace Wroid.Lib

/-- One Linux input event. -/
structure InputEvent where
  type : ℕ
  code : ℕ
  value : ℤ
  deriving DecidableEq, Repr

def evSyn : ℕ := 0x00
def evKey : ℕ := 0x01
def evAbs : ℕ := 0x03
def synReport : ℕ := 0x00
def btnTouch : ℕ := 0x14a
def absX : ℕ := 0x00
def absY : ℕ := 0x01
def absMtSlot : ℕ := 0x2f
def absMtPositionX : ℕ := 0x35
def absMtPositionY : ℕ := 0x36
def absMtTrackingId : ℕ := 0x39

/-- The event that ends a batch. -/
def reportEvent : InputEvent := ⟨evSyn, synReport, 0⟩

/-- The values a slot carries. -/
structure SlotValues where
  trackingId : ℤ
  x : ℤ
  y : ℤ
  deriving DecidableEq, Repr

/-- The values of a device: the selected slot, the slots, and the single-touch emulation. -/
structure Screen where
  selected : ℕ
  slots : ℕ → SlotValues
  touch : ℤ
  pointerX : ℤ
  pointerY : ℤ

namespace Screen

/-- A device nobody touches. -/
def idle : Screen := ⟨0, fun _ => ⟨-1, 0, 0⟩, 0, 0, 0⟩

/-- A slot is occupied while its tracking identifier is not `-1`. -/
def Occupied (s : Screen) (slot : ℕ) : Prop := (s.slots slot).trackingId ≠ -1

def updateSelected (s : Screen) (f : SlotValues → SlotValues) : Screen :=
  { s with slots := Function.update s.slots s.selected (f (s.slots s.selected)) }

/-- Collect one event. -/
def collect (s : Screen) (e : InputEvent) : Screen :=
  if e.type = evKey then
    if e.code = btnTouch then { s with touch := e.value } else s
  else if e.type = evAbs then
    if e.code = absMtSlot then { s with selected := e.value.toNat }
    else if e.code = absMtTrackingId then s.updateSelected ({ · with trackingId := e.value })
    else if e.code = absMtPositionX then s.updateSelected ({ · with x := e.value })
    else if e.code = absMtPositionY then s.updateSelected ({ · with y := e.value })
    else if e.code = absX then { s with pointerX := e.value }
    else if e.code = absY then { s with pointerY := e.value }
    else s
  else s

def collectAll (s : Screen) (es : List InputEvent) : Screen := es.foldl collect s

@[simp] theorem collectAll_nil (s : Screen) : s.collectAll [] = s := rfl

theorem collectAll_append (s : Screen) (as bs : List InputEvent) :
    s.collectAll (as ++ bs) = (s.collectAll as).collectAll bs := List.foldl_append

end Screen

/-- What a reader knows: the values collected since, and those shown by, the last report. -/
structure Reader where
  collected : Screen
  reported : Screen

namespace Reader

def idle : Reader := ⟨.idle, .idle⟩

def read (r : Reader) (e : InputEvent) : Reader :=
  if e.type = evSyn ∧ e.code = synReport then { r with reported := r.collected }
  else { r with collected := r.collected.collect e }

def readAll (r : Reader) (es : List InputEvent) : Reader := es.foldl read r

theorem readAll_append (r : Reader) (as bs : List InputEvent) :
    r.readAll (as ++ bs) = (r.readAll as).readAll bs := List.foldl_append

/-- Events that are not reports are only collected. -/
theorem readAll_collect {r : Reader} {es : List InputEvent} (h : ∀ e ∈ es, e.type ≠ evSyn) :
    r.readAll es = ⟨r.collected.collectAll es, r.reported⟩ := by
  induction es generalizing r with
  | nil => rfl
  | cons e es ih =>
    have he : ¬ (e.type = evSyn ∧ e.code = synReport) := fun ⟨ht, _⟩ => h e List.mem_cons_self ht
    have hcons : r.readAll (e :: es) = (r.read e).readAll es := rfl
    rw [hcons, ih fun e' he' => h e' (List.mem_cons_of_mem e he'), read, if_neg he]
    rfl

/-- **A batch followed by a report is shown as a whole.** -/
theorem readAll_report {r : Reader} {es : List InputEvent} (h : ∀ e ∈ es, e.type ≠ evSyn) :
    r.readAll (es ++ [reportEvent]) =
      ⟨r.collected.collectAll es, r.collected.collectAll es⟩ := by
  rw [readAll_append, readAll_collect h]
  rfl

end Reader

/-! ### The event groups of a contact -/

/-- Occupy a slot. -/
def placeEvents (slot trackingId x y : ℤ) : List InputEvent :=
  [⟨evAbs, absMtSlot, slot⟩, ⟨evAbs, absMtTrackingId, trackingId⟩,
    ⟨evAbs, absMtPositionX, x⟩, ⟨evAbs, absMtPositionY, y⟩]

/-- Move the contact of a slot. -/
def dragEvents (slot x y : ℤ) : List InputEvent :=
  [⟨evAbs, absMtSlot, slot⟩, ⟨evAbs, absMtPositionX, x⟩, ⟨evAbs, absMtPositionY, y⟩]

/-- Free a slot. -/
def liftEvents (slot : ℤ) : List InputEvent :=
  [⟨evAbs, absMtSlot, slot⟩, ⟨evAbs, absMtTrackingId, -1⟩]

namespace Screen

theorem collectAll_place (s : Screen) (slot : ℕ) (trackingId x y : ℤ) :
    s.collectAll (placeEvents slot trackingId x y) =
      { s with selected := slot, slots := Function.update s.slots slot ⟨trackingId, x, y⟩ } := by
  simp [collectAll, placeEvents, collect, updateSelected, evAbs, evKey, absMtSlot,
    absMtTrackingId, absMtPositionX, absMtPositionY]

theorem collectAll_drag (s : Screen) (slot : ℕ) (x y : ℤ) :
    s.collectAll (dragEvents slot x y) =
      { s with selected := slot,
               slots := Function.update s.slots slot ⟨(s.slots slot).trackingId, x, y⟩ } := by
  simp [collectAll, dragEvents, collect, updateSelected, evAbs, evKey, absMtSlot,
    absMtTrackingId, absMtPositionX, absMtPositionY]

theorem collectAll_lift (s : Screen) (slot : ℕ) :
    s.collectAll (liftEvents slot) =
      { s with selected := slot,
               slots := Function.update s.slots slot ⟨-1, (s.slots slot).x, (s.slots slot).y⟩ } := by
  simp [collectAll, liftEvents, collect, updateSelected, evAbs, evKey, absMtSlot,
    absMtTrackingId]

end Screen

end Wroid.Lib
