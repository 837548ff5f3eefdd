import Wroid.Editor.Page

/-!
# Undo and redo of the editor page

What the user means by undo and redo is a timeline of the profile: edits, finished drags and
loads of the previous save are its changes, and whatever falls into a drag comes after the
part of the drag that was made before it.  The page keeps two stacks of snapshots instead.

## Main definitions

* `Story`, `Story.tell` — the timeline of a page and what an event means for it.
* `Harmless`, `Careful` — an event that the stacks take in right, and a run of such events.

## Main results

* `Follows.handle` — a harmless event keeps the page at its story.
* `undo_exact` — **the page follows its story through every run of harmless events.**
* `press_adds_undo_step` — pressing a control without moving it makes the next undo do nothing.
-/

namespace Wroid.Page

open Lib

/-- The timeline of a profile, and the drag that is under way. -/
structure Story where
  timeline : Timeline PageProfile
  drag : Option Drag
  testing : Bool
  snap : Bool

namespace Story

def boot (document : Document) : Story := ⟨.fresh document.profile, none, false, true⟩

/-- What the drag has done so far becomes a change. -/
noncomputable def settle (story : Story) : Timeline PageProfile :=
  match story.drag with
  | none => story.timeline
  | some drag =>
    { story.timeline with present := drag.before }.become historyLimit story.timeline.present

/-- Something happens to the timeline; a drag goes on from there. -/
noncomputable def interrupt (f : Timeline PageProfile → Timeline PageProfile) (story : Story) :
    Story :=
  let timeline := f story.settle
  { story with timeline, drag := story.drag.map fun drag => { drag with before := timeline.present } }

/-- What an event means. -/
noncomputable def tell (hypot : ℚ → ℚ → ℚ) (story : Story) : PageEvent → Story
  | .edit operation =>
    story.interrupt fun timeline => timeline.become historyLimit (operation timeline.present)
  | .undo => story.interrupt Timeline.undo
  | .redo => story.interrupt Timeline.redo
  | .beginDrag index mode event =>
    if story.testing then story
    else
      match beginDrag story.timeline.present index mode event with
      | none => story
      | some drag => { story with timeline := story.settle, drag := some drag }
  | .moveDrag event =>
    match story.drag with
    | none => story
    | some drag =>
      match moveDrag hypot story.snap event drag story.timeline.present with
      | none => story
      | some profile => { story with timeline := { story.timeline with present := profile } }
  | .endDrag => { story with timeline := story.settle, drag := none }
  | .previousSave answer =>
    story.interrupt fun timeline => timeline.become historyLimit answer.profile
  | .setTesting testing => { story with testing }
  | .setSnap snap => { story with snap }

noncomputable def run (hypot : ℚ → ℚ → ℚ) (story : Story) (events : List PageEvent) : Story :=
  events.foldl (tell hypot) story

end Story

/-- The page shows the profile of the story and keeps its undo and redo steps. -/
structure Follows (s : EditorState) (story : Story) : Prop where
  profile : s.profile = story.timeline.present
  history : s.history = story.timeline.past
  future : s.future = story.timeline.future

/-! ### Harmless events -/

/-- No drag is under way, or it has not changed the profile. -/
def Unmoved (s : EditorState) : Prop := ∀ drag ∈ s.drag, s.profile = drag.before

/-- The profile that the event leads to is one that JSON can write, it is another one where the
event adds an undo step, and the event falls into no drag that it would have to split. -/
def Harmless (hypot : ℚ → ℚ → ℚ) (s : EditorState) : PageEvent → Prop
  | .edit operation => s.drag = none ∧ operation s.profile ≠ s.profile ∧
    (operation s.profile).clone = operation s.profile
  | .undo => s.drag = none ∨ s.history = [] ∧ Unmoved s
  | .redo => s.drag = none ∨ s.future = [] ∧ Unmoved s
  | .beginDrag .. => s.testing = true ∨ Unmoved s
  | .moveDrag event => ∀ drag ∈ s.drag, ∀ profile ∈ moveDrag hypot s.snap event drag s.profile,
    profile.clone = profile
  | .endDrag => ∀ drag ∈ s.drag, s.profile ≠ drag.before
  | .previousSave answer => s.drag = none ∧ answer.profile ≠ s.profile
  | .setTesting _ | .setSnap _ => True

/-- Every event is harmless when it happens. -/
def Careful (hypot : ℚ → ℚ → ℚ) (s : EditorState) : List PageEvent → Prop
  | [] => True
  | event :: events => Harmless hypot s event ∧ Careful hypot (s.handle hypot event) events

/-! ### The page follows its story -/

section Invariant

variable {hypot : ℚ → ℚ → ℚ} {s : EditorState} {story : Story}

/-- What holds between the page and its story. -/
structure Tracks (s : EditorState) (story : Story) : Prop extends Follows s story where
  drag : s.drag = story.drag
  testing : s.testing = story.testing
  snap : s.snap = story.snap
  written : s.profile.clone = s.profile
  past_written : ∀ snapshot ∈ story.timeline.past, snapshot.clone = snapshot
  future_written : ∀ snapshot ∈ story.timeline.future, snapshot.clone = snapshot
  before_written : ∀ drag ∈ s.drag, drag.before.clone = drag.before
  within : story.timeline.Within historyLimit

theorem tracks_boot (document : Document) : Tracks (.boot document) (.boot document) where
  profile := rfl
  history := rfl
  future := rfl
  drag := rfl
  testing := rfl
  snap := rfl
  written := document.written
  past_written := fun _ h => by cases h
  future_written := fun _ h => by cases h
  before_written := fun _ h => by cases h
  within := Timeline.within_fresh

/-- Without a drag there is nothing to settle. -/
theorem settle_of_none (h : story.drag = none) : story.settle = story.timeline := by
  rw [Story.settle, h]

/-- A drag that has changed nothing settles to nothing. -/
theorem settle_of_same {drag : Drag} (h : story.drag = some drag)
    (hsame : story.timeline.present = drag.before) : story.settle = story.timeline := by
  rw [Story.settle, h]
  change Timeline.become historyLimit story.timeline.present
    { story.timeline with present := drag.before } = _
  rw [← hsame]
  exact Timeline.become_same

theorem Tracks.settle_of_unmoved (ht : Tracks s story) (h : Unmoved s) :
    story.settle = story.timeline := by
  cases hd : story.drag with
  | none => exact settle_of_none hd
  | some drag =>
    apply settle_of_same hd
    rw [← ht.profile]
    exact h drag (by rw [ht.drag, hd]; rfl)

/-- Nothing happens to a timeline whose drag has changed nothing. -/
theorem Tracks.interrupt_of_unmoved (ht : Tracks s story) (h : Unmoved s)
    {f : Timeline PageProfile → Timeline PageProfile} (hf : f story.timeline = story.timeline) :
    story.interrupt f = story := by
  have hsettle := ht.settle_of_unmoved h
  obtain ⟨timeline, drag, testing, snap⟩ := story
  simp only [Story.interrupt, hsettle]
  simp only at hf
  rw [hf]
  cases drag with
  | none => rfl
  | some drag =>
    have hbefore : timeline.present = drag.before := by
      rw [← ht.profile]
      exact h drag (by rw [ht.drag]; rfl)
    simp only [Option.map_some, hbefore]

/-- Without a drag, an event happens to the timeline as it is. -/
theorem interrupt_of_none (h : story.drag = none)
    (f : Timeline PageProfile → Timeline PageProfile) :
    story.interrupt f = { story with timeline := f story.timeline } := by
  obtain ⟨timeline, drag, testing, snap⟩ := story
  cases h
  rfl

theorem Tracks.history_length (ht : Tracks s story) : s.history.length ≤ historyLimit := by
  have h := ht.within
  rw [Timeline.Within, ← ht.history] at h
  omega

/-- A snapshot of the profile, then another profile. -/
theorem Tracks.change (ht : Tracks s story) (hdrag : s.drag = none) {profile : PageProfile}
    (hne : profile ≠ s.profile) (hwritten : profile.clone = profile) :
    Tracks { s.pushHistory s.profile.clone with future := [], profile, dirty := true }
      (story.interrupt fun timeline => timeline.become historyLimit profile) := by
  have hnone : story.drag = none := by rw [← ht.drag, hdrag]
  have hbecome := @Timeline.become_of_ne _ historyLimit story.timeline profile
    (by rw [← ht.profile]; exact hne)
  rw [interrupt_of_none hnone, hbecome]
  refine { ht with
    profile := rfl, history := ?_, future := rfl, written := hwritten, past_written := ?_,
    future_written := fun _ h => (by cases h), within := ?_ }
  · rw [← ht.profile, ← ht.history]
    simp only [EditorState.history_pushHistory ht.history_length, ht.written]
  · intro snapshot hsnapshot
    rcases List.mem_cons.mp (List.mem_of_mem_take hsnapshot) with rfl | h
    · rw [← ht.profile, ht.written]
    · exact ht.past_written snapshot h
  · exact List.length_take_le _ _

theorem Tracks.undo (ht : Tracks s story) (hdrag : s.drag = none) :
    Tracks s.undo (story.interrupt Timeline.undo) := by
  have hnone : story.drag = none := by rw [← ht.drag, hdrag]
  rw [interrupt_of_none hnone]
  unfold EditorState.undo
  cases hh : s.history with
  | nil =>
    have hsame : story.timeline.undo = story.timeline := by
      simp only [Timeline.undo, ← ht.history, hh]
    rw [hsame]
    exact ht
  | cons previous history =>
    have hundo : story.timeline.undo =
        ⟨history, previous, story.timeline.present :: story.timeline.future⟩ := by
      simp only [Timeline.undo, ← ht.history, hh]
    have hmem : ∀ snapshot ∈ previous :: history, snapshot ∈ story.timeline.past := by
      rw [← ht.history, hh]
      exact fun _ h => h
    have hwithin := ht.within.undo
    rw [hundo] at hwithin ⊢
    refine { ht with
      profile := rfl, history := rfl, future := ?_, written := ?_, past_written := ?_,
      future_written := ?_, within := hwithin }
    · rw [← ht.profile, ← ht.future, ht.written]
    · exact ht.past_written previous (hmem previous (List.mem_cons_self ..))
    · exact fun snapshot h => ht.past_written snapshot (hmem snapshot (List.mem_cons_of_mem _ h))
    · intro snapshot h
      rcases List.mem_cons.mp h with rfl | h
      · rw [← ht.profile, ht.written]
      · exact ht.future_written snapshot h

theorem Tracks.redo (ht : Tracks s story) (hdrag : s.drag = none) :
    Tracks s.redo (story.interrupt Timeline.redo) := by
  have hnone : story.drag = none := by rw [← ht.drag, hdrag]
  rw [interrupt_of_none hnone]
  unfold EditorState.redo
  cases hf : s.future with
  | nil =>
    have hsame : story.timeline.redo = story.timeline := by
      simp only [Timeline.redo, ← ht.future, hf]
    rw [hsame]
    exact ht
  | cons next future =>
    have hredo : story.timeline.redo =
        ⟨story.timeline.present :: story.timeline.past, next, future⟩ := by
      simp only [Timeline.redo, ← ht.future, hf]
    have hmem : ∀ snapshot ∈ next :: future, snapshot ∈ story.timeline.future := by
      rw [← ht.future, hf]
      exact fun _ h => h
    have hwithin := ht.within.redo
    rw [hredo] at hwithin ⊢
    refine { ht with
      profile := rfl, history := ?_, future := rfl, written := ?_, past_written := ?_,
      future_written := ?_, within := hwithin }
    · rw [← ht.profile, ← ht.history, ht.written]
    · exact ht.future_written next (hmem next (List.mem_cons_self ..))
    · intro snapshot h
      rcases List.mem_cons.mp h with rfl | h
      · rw [← ht.profile, ht.written]
      · exact ht.past_written snapshot h
    · exact fun snapshot h => ht.future_written snapshot (hmem snapshot (List.mem_cons_of_mem _ h))

theorem Tracks.beginDrag (ht : Tracks s story) {index : ℕ} {mode : DragMode}
    {event : PointerEvent} (h : Harmless hypot s (.beginDrag index mode event)) :
    Tracks (s.beginDrag index mode event) (story.tell hypot (.beginDrag index mode event)) := by
  unfold EditorState.beginDrag
  simp only [Story.tell, ← ht.testing, ← ht.profile]
  by_cases htesting : s.testing = true
  · rw [if_pos htesting, if_pos htesting]
    exact ht
  · rw [if_neg htesting, if_neg htesting]
    have hunmoved : Unmoved s := h.resolve_left htesting
    cases hbegin : Page.beginDrag s.profile index mode event with
    | none => exact ht
    | some drag =>
      have hbefore : drag.before = s.profile.clone := by
        unfold Page.beginDrag at hbegin
        obtain ⟨binding, -, rfl⟩ := Option.map_eq_some_iff.mp hbegin
        rfl
      simp only [ht.settle_of_unmoved hunmoved]
      refine { ht with testing := rfl, drag := rfl, before_written := ?_ }
      intro d hd
      obtain rfl := Option.some.inj hd
      rw [hbefore, PageProfile.clone_clone]

theorem Tracks.moveDrag (ht : Tracks s story) {event : PointerEvent}
    (h : Harmless hypot s (.moveDrag event)) :
    Tracks (s.moveDrag hypot event) (story.tell hypot (.moveDrag event)) := by
  unfold EditorState.moveDrag
  simp only [Story.tell, ← ht.drag, ← ht.snap, ← ht.profile]
  cases hd : s.drag with
  | none => exact ht
  | some drag =>
    simp only
    cases hm : Page.moveDrag hypot s.snap event drag s.profile with
    | none => exact ht
    | some profile =>
      simp only
      have hwritten := h drag (by rw [hd]; rfl) profile (by rw [hm]; rfl)
      exact { ht with
        profile := rfl, written := hwritten, drag := rfl, snap := rfl,
        before_written := fun d hd' => ht.before_written d (by rw [hd]; exact hd') }

theorem Tracks.endDrag (ht : Tracks s story) (h : Harmless hypot s .endDrag) :
    Tracks s.endDrag (story.tell hypot .endDrag) := by
  unfold EditorState.endDrag
  simp only [Story.tell]
  cases hd : s.drag with
  | none =>
    have hnone : story.drag = none := by rw [← ht.drag, hd]
    simp only [settle_of_none hnone]
    exact { ht with drag := hd }
  | some drag =>
    have hsome : story.drag = some drag := by rw [← ht.drag, hd]
    have hne : story.timeline.present ≠ drag.before := by
      rw [← ht.profile]
      exact h drag (by rw [hd]; rfl)
    have hsettle : story.settle =
        ⟨(drag.before :: story.timeline.past).take historyLimit, story.timeline.present, []⟩ := by
      rw [Story.settle, hsome]
      exact Timeline.become_of_ne hne
    simp only [hsettle]
    refine { ht with
      profile := ht.profile, history := ?_, future := rfl, drag := rfl, past_written := ?_,
      future_written := fun _ h => (by cases h), before_written := fun _ h => (by cases h),
      within := ?_ }
    · rw [← ht.history]
      exact EditorState.history_pushHistory ht.history_length _
    · intro snapshot hsnapshot
      rcases List.mem_cons.mp (List.mem_of_mem_take hsnapshot) with rfl | h
      · exact ht.before_written drag (by rw [hd]; rfl)
      · exact ht.past_written snapshot h
    · exact List.length_take_le _ _

/-- **A harmless event keeps the page at its story.** -/
theorem Tracks.handle (ht : Tracks s story) {event : PageEvent}
    (h : Harmless hypot s event) :
    Tracks (s.handle hypot event) (story.tell hypot event) := by
  cases event with
  | edit operation =>
    obtain ⟨hdrag, hne, hwritten⟩ := h
    have hpresent : ∀ timeline : Timeline PageProfile, timeline = story.settle →
        operation timeline.present = operation s.profile := by
      intro timeline htimeline
      have hnone : story.drag = none := by rw [← ht.drag, hdrag]
      rw [htimeline, settle_of_none hnone, ht.profile]
    have hinterrupt : story.tell hypot (.edit operation) =
        story.interrupt fun timeline => timeline.become historyLimit (operation s.profile) := by
      simp only [Story.tell, Story.interrupt, hpresent story.settle rfl]
    rw [hinterrupt]
    exact ht.change hdrag hne hwritten
  | undo =>
    rcases h with hdrag | ⟨hempty, hunmoved⟩
    · exact ht.undo hdrag
    · have hpast : story.timeline.past = [] := by rw [← ht.history, hempty]
      have hsame : story.timeline.undo = story.timeline := by simp only [Timeline.undo, hpast]
      have hpage : s.undo = s := by simp only [EditorState.undo, hempty]
      simp only [Story.tell, EditorState.handle, hpage, ht.interrupt_of_unmoved hunmoved hsame]
      exact ht
  | redo =>
    rcases h with hdrag | ⟨hempty, hunmoved⟩
    · exact ht.redo hdrag
    · have hfuture : story.timeline.future = [] := by rw [← ht.future, hempty]
      have hsame : story.timeline.redo = story.timeline := by simp only [Timeline.redo, hfuture]
      have hpage : s.redo = s := by simp only [EditorState.redo, hempty]
      simp only [Story.tell, EditorState.handle, hpage, ht.interrupt_of_unmoved hunmoved hsame]
      exact ht
  | beginDrag index mode event => exact ht.beginDrag h
  | moveDrag event => exact ht.moveDrag h
  | endDrag => exact ht.endDrag h
  | previousSave answer => exact ht.change h.1 h.2 answer.written
  | setTesting testing => exact { ht with testing := rfl }
  | setSnap snap => exact { ht with snap := rfl }

theorem Tracks.run {events : List PageEvent} (ht : Tracks s story)
    (h : Careful hypot s events) : Tracks (s.run hypot events) (story.run hypot events) := by
  induction events generalizing s story with
  | nil => exact ht
  | cons event events ih => exact ih (ht.handle h.1) h.2

end Invariant

/-! ### Undo and redo -/

/-- **The page follows its story through every run of harmless events.** -/
theorem undo_exact (hypot : ℚ → ℚ → ℚ) (document : Document) (events : List PageEvent)
    (h : Careful hypot (.boot document) events) :
    Follows ((EditorState.boot document).run hypot events)
      ((Story.boot document).run hypot events) :=
  ((tracks_boot document).run h).toFollows

theorem undo_exact_rename :
    Careful max (.boot tapDocument) [.edit rename, .undo, .redo] ∧
      Follows ((EditorState.boot tapDocument).run max [.edit rename, .undo, .redo])
        ((Story.boot tapDocument).run max [.edit rename, .undo, .redo]) := by
  have hne : rename tapDocument.profile ≠ tapDocument.profile := by
    intro h
    exact absurd (congrArg PageProfile.name h) (by decide)
  have hcareful : Careful max (.boot tapDocument) [.edit rename, .undo, .redo] :=
    ⟨⟨rfl, hne, rfl⟩, .inl rfl, .inl rfl, trivial⟩
  exact ⟨hcareful, undo_exact max tapDocument _ hcareful⟩

/-- A press on the first control. -/
def press : PointerEvent :=
  ⟨0, 0, ⟨0, 0, 1600, 900, by decide, by decide⟩⟩

/-- A change, then a press and release of a control without a move in between: the next undo
does not undo the change. -/
theorem press_adds_undo_step :
    ¬ ∀ (hypot : ℚ → ℚ → ℚ) (document : Document) (events : List PageEvent),
      Follows ((EditorState.boot document).run hypot events)
        ((Story.boot document).run hypot events) := by
  intro h
  have hfollows := (h max tapDocument [.edit rename, .beginDrag 0 .move press, .endDrag, .undo]).profile
  have hname := congrArg PageProfile.name hfollows
  have hpage : ((EditorState.boot tapDocument).run max
      [.edit rename, .beginDrag 0 .move press, .endDrag, .undo]).profile.name = "Renamed" := rfl
  have hne : rename tapDocument.profile ≠ tapDocument.profile := by
    intro h
    exact absurd (congrArg PageProfile.name h) (by decide)
  have hedit : (Story.boot tapDocument).tell max (.edit rename) =
      ⟨⟨[tapDocument.profile], rename tapDocument.profile, []⟩, none, false, true⟩ := by
    have hbecome := @Timeline.become_of_ne _ historyLimit (.fresh tapDocument.profile) _ hne
    have hinterrupt := @interrupt_of_none (Story.boot tapDocument) rfl
      fun timeline => timeline.become historyLimit (rename timeline.present)
    exact hinterrupt.trans (congrArg (Story.mk · none false true) hbecome)
  have hstory : ((Story.boot tapDocument).run max
      [.edit rename, .beginDrag 0 .move press, .endDrag, .undo]).timeline.present =
        tapDocument.profile := by
    simp only [Story.run, List.foldl_cons, List.foldl_nil, hedit]
    have hend : Story.tell max (Story.tell max
        ⟨⟨[tapDocument.profile], rename tapDocument.profile, []⟩, none, false, true⟩
        (.beginDrag 0 .move press)) .endDrag =
        ⟨⟨[tapDocument.profile], rename tapDocument.profile, []⟩, none, false, true⟩ :=
      congrArg (Story.mk · none false true) Timeline.become_same
    rw [hend]
    rfl
  rw [hpage, hstory] at hname
  exact absurd hname (by decide)

end Wroid.Page
