import Wroid.Lib.Timeline
import Wroid.Editor.Geometry

/-!
# The editor page

The part of the page's state that edits change, and the handlers of `app.js` that change it.
An edit in a form field, a button or a key capture runs some operation on the profile through
`mutate`; the operation is arbitrary here.  What only shows the state is left out.

A browser stops delivering pointer events to a control that was drawn anew, so not every
order of the events below happens there.

## Main definitions

* `EditorState` — the profile with its two stacks, a drag and the dirty flag.
* `PageEvent`, `EditorState.handle`, `EditorState.run` — what happens to it.

## Main results

* `dirty_or_same` — an event that changes the profile marks it as unsaved.
-/

namespace Wroid.Page

open Lib

/-- A profile that came out of a JSON text. -/
structure Document where
  profile : PageProfile
  written : profile.clone = profile

/-- The newest snapshot comes first in `history` and `future`. -/
structure EditorState where
  profile : PageProfile
  history : List PageProfile
  future : List PageProfile
  dirty : Bool
  drag : Option Drag
  testing : Bool
  snap : Bool

/-- How many snapshots are kept. -/
def historyLimit : ℕ := 80

inductive PageEvent
  /-- `mutate(operation)` -/
  | edit (operation : PageProfile → PageProfile)
  | undo
  | redo
  | beginDrag (index : ℕ) (mode : DragMode) (event : PointerEvent)
  | moveDrag (event : PointerEvent)
  | endDrag
  /-- The answer that `loadPreviousSave` waited for. -/
  | previousSave (answer : Document)
  | setTesting (testing : Bool)
  | setSnap (snap : Bool)

namespace EditorState

/-- The state when the page has started. -/
def boot (document : Document) : EditorState :=
  ⟨document.profile, [], [], false, none, false, true⟩

/-- A snapshot onto the undo stack; the oldest one makes room. -/
def pushHistory (snapshot : PageProfile) (s : EditorState) : EditorState :=
  let history := snapshot :: s.history
  { s with history := if historyLimit < history.length then history.dropLast else history }

def mutate (operation : PageProfile → PageProfile) (s : EditorState) : EditorState :=
  { s.pushHistory s.profile.clone with future := [], profile := operation s.profile, dirty := true }

def undo (s : EditorState) : EditorState :=
  match s.history with
  | [] => s
  | previous :: history =>
    { s with history, future := s.profile.clone :: s.future, profile := previous, dirty := true }

def redo (s : EditorState) : EditorState :=
  match s.future with
  | [] => s
  | next :: future =>
    { s with future, history := s.profile.clone :: s.history, profile := next, dirty := true }

def beginDrag (index : ℕ) (mode : DragMode) (event : PointerEvent) (s : EditorState) :
    EditorState :=
  if s.testing then s
  else
    match Page.beginDrag s.profile index mode event with
    | none => s
    | some drag => { s with drag := some drag }

def moveDrag (hypot : ℚ → ℚ → ℚ) (event : PointerEvent) (s : EditorState) : EditorState :=
  match s.drag with
  | none => s
  | some drag =>
    match Page.moveDrag hypot s.snap event drag s.profile with
    | none => s
    | some profile => { s with profile, dirty := true }

def endDrag (s : EditorState) : EditorState :=
  match s.drag with
  | none => s
  | some drag => { s.pushHistory drag.before with future := [], drag := none }

/-- `loadPreviousSave`, once its answer has arrived. -/
def previousSave (answer : Document) (s : EditorState) : EditorState :=
  { s.pushHistory s.profile.clone with future := [], profile := answer.profile, dirty := true }

def handle (hypot : ℚ → ℚ → ℚ) (s : EditorState) : PageEvent → EditorState
  | .edit operation => s.mutate operation
  | .undo => s.undo
  | .redo => s.redo
  | .beginDrag index mode event => s.beginDrag index mode event
  | .moveDrag event => s.moveDrag hypot event
  | .endDrag => s.endDrag
  | .previousSave answer => s.previousSave answer
  | .setTesting testing => { s with testing }
  | .setSnap snap => { s with snap }

def run (hypot : ℚ → ℚ → ℚ) (s : EditorState) (events : List PageEvent) : EditorState :=
  events.foldl (handle hypot) s

section Api

variable {hypot : ℚ → ℚ → ℚ} {s : EditorState}

theorem beginDrag_profile (index : ℕ) (mode : DragMode) (event : PointerEvent) :
    (s.beginDrag index mode event).profile = s.profile ∧
      (s.beginDrag index mode event).dirty = s.dirty := by
  unfold beginDrag
  by_cases h : s.testing
  · rw [if_pos h]
    exact ⟨rfl, rfl⟩
  · rw [if_neg h]
    cases Page.beginDrag s.profile index mode event <;> exact ⟨rfl, rfl⟩

theorem endDrag_profile : s.endDrag.profile = s.profile ∧ s.endDrag.dirty = s.dirty := by
  unfold endDrag
  cases s.drag <;> exact ⟨rfl, rfl⟩

/-- An event that changes the profile marks it as unsaved, and no event takes the mark away. -/
theorem dirty_or_same (event : PageEvent) :
    (s.handle hypot event).dirty = true ∨
      (s.handle hypot event).profile = s.profile ∧ (s.handle hypot event).dirty = s.dirty := by
  cases event with
  | edit operation => exact .inl rfl
  | undo =>
    simp only [handle, undo]
    cases s.history with
    | nil => exact .inr ⟨rfl, rfl⟩
    | cons previous history => exact .inl rfl
  | redo =>
    simp only [handle, redo]
    cases s.future with
    | nil => exact .inr ⟨rfl, rfl⟩
    | cons next future => exact .inl rfl
  | beginDrag index mode event => exact .inr (beginDrag_profile index mode event)
  | moveDrag event =>
    simp only [handle, moveDrag]
    cases s.drag with
    | none => exact .inr ⟨rfl, rfl⟩
    | some drag =>
      simp only
      cases Page.moveDrag hypot s.snap event drag s.profile with
      | none => exact .inr ⟨rfl, rfl⟩
      | some profile => exact .inl rfl
  | endDrag => exact .inr endDrag_profile
  | previousSave answer => exact .inl rfl
  | setTesting testing => exact .inr ⟨rfl, rfl⟩
  | setSnap snap => exact .inr ⟨rfl, rfl⟩

/-- Pushing onto a stack that keeps the limit. -/
theorem history_pushHistory (h : s.history.length ≤ historyLimit) (snapshot : PageProfile) :
    (s.pushHistory snapshot).history = (snapshot :: s.history).take historyLimit := by
  unfold pushHistory
  by_cases hlen : historyLimit < (snapshot :: s.history).length
  · have hlen' : (snapshot :: s.history).length = historyLimit + 1 := by
      rw [List.length_cons] at hlen ⊢
      omega
    simp only [if_pos hlen]
    rw [List.dropLast_eq_take, hlen', Nat.add_sub_cancel]
  · simp only [if_neg hlen]
    exact (List.take_of_length_le (not_lt.mp hlen)).symm

end Api

end EditorState

/-! ### A profile to start from -/

/-- A profile with one tap. -/
def tapDocument : Document where
  profile := ⟨some 2, "Demo", "com.example.demo", "landscape", [],
    [⟨"fire", none, none, .key "f", .tap ⟨.number (1 / 2), .number (1 / 2)⟩⟩]⟩
  written := rfl

def rename (profile : PageProfile) : PageProfile := { profile with name := "Renamed" }

end Wroid.Page
