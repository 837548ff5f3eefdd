import Wroid.Lib.Fallible
import Wroid.Lib.Streams

/-!
# The render size of Waydroid

Before a session the render size is written into two properties of Waydroid and read back.  If a
step of this fails, or the properties do not read back, both are written back to what they were.

The property control is a store whose calls need not work: a read may fail or give another text, a
write may fail or be ignored, and may leave anything behind either way.

## Main definitions

* `PropertyControl` — the two properties, and the fate of the calls to come.
* `configureResolutionProperties` — the change.
* `ReadsBack`, `Restores` — the originals are read as they are, and the restoring writes succeed.

## Main results

* `configureResolution_all_or_nothing` — **the change takes place as a whole, or it fails and both
  properties are what they were**.
-/

namespace Wroid

open Lib

namespace WaydroidProperties

def MAX_WAYDROID_DIMENSION : ℕ := 9999

/-- `WAYDROID_WIDTH_PROPERTY`, `WAYDROID_HEIGHT_PROPERTY` -/
inductive Property
  | width
  | height
  deriving DecidableEq

/-- How a read goes: it gives the value, it fails, or it gives some other text. -/
inductive ReadFate
  | value
  | failure (error : IoError)
  | garbled (text : String)

/-- How a write goes: it stores the value, it fails, or it says that it has stored the value and
has not.  In the last two cases it leaves the property alone or leaves some text there. -/
inductive WriteFate
  | stored
  | failure (error : IoError) (left : Option String)
  | ignored (left : Option String)
  deriving DecidableEq

structure PropertyControl where
  value : Property → String
  /-- How the call with this number goes, if it is a read. -/
  reads : ℕ → ReadFate
  writes : ℕ → WriteFate
  /-- How many calls have been made. -/
  calls : ℕ

abbrev PropertyM := EStateM IoError PropertyControl

namespace PropertyControl

variable (control : PropertyControl)

def next : PropertyControl := { control with calls := control.calls + 1 }

def setValue (property : Property) (text : String) : PropertyControl :=
  { control with value := Function.update control.value property text }

/-- What a write that misses leaves. -/
def leave (property : Property) (left : Option String) : PropertyControl :=
  match left with
  | some text => control.setValue property text
  | none => control

end PropertyControl

def getProperty (property : Property) : PropertyM String := fun control =>
  match control.reads control.calls with
  | .value => .ok (control.value property) control.next
  | .failure error => .error error control.next
  | .garbled text => .ok text control.next

def setProperty (property : Property) (text : String) : PropertyM Unit := fun control =>
  match control.writes control.calls with
  | .stored => .ok () (control.next.setValue property text)
  | .failure error left => .error error (control.next.leave property left)
  | .ignored left => .ok () (control.next.leave property left)

/-- Write the target unless the property has it already. -/
def updateProperty (property : Property) (original target : String) : PropertyM Unit :=
  if original ≠ target then setProperty property target else pure ()

/-- The update of `configure_resolution_properties`: what differs is written, and both are read
back. -/
def update (originalWidth originalHeight targetWidth targetHeight : String) : PropertyM Unit := do
  updateProperty .width originalWidth targetWidth
  updateProperty .height originalHeight targetHeight
  let savedWidth ← getProperty .width
  let savedHeight ← getProperty .height
  if savedWidth ≠ targetWidth ∨ savedHeight ≠ targetHeight then
    throw ⟨.other, "Waydroid did not persist render size " ++ targetWidth ++ "x" ++ targetHeight ++
      "; saved values are '" ++ savedWidth ++ "'x'" ++ savedHeight ++ "'"⟩

def restoreResolutionProperties (width height : String) : PropertyM Unit := do
  let widthResult ← attempt (setProperty .width width)
  let heightResult ← attempt (setProperty .height height)
  match widthResult, heightResult with
  | .ok (), .ok () => pure ()
  | .error error, .ok () => throw error
  | .ok (), .error error => throw error
  | .error widthError, .error heightError =>
    throw ⟨.other, "width restore failed: " ++ widthError.detail ++ "; height restore failed: " ++
      heightError.detail⟩

/-- A size Waydroid is asked for. -/
def Renderable (width height : ℕ) : Prop :=
  ¬ (width = 0 ∨ height = 0 ∨ MAX_WAYDROID_DIMENSION < width ∨ MAX_WAYDROID_DIMENSION < height)

instance (width height : ℕ) : Decidable (Renderable width height) :=
  inferInstanceAs (Decidable (¬ _))

/-- The result says whether the Android session has to be restarted. -/
def configureResolutionProperties (width height : ℕ) : PropertyM Bool :=
  if ¬ Renderable width height then
    throw ⟨.invalidInput, "Waydroid render size must be within 1..=" ++
      toString MAX_WAYDROID_DIMENSION ++ "; got " ++ toString width ++ "x" ++ toString height⟩
  else do
    let originalWidth ← getProperty .width
    let originalHeight ← getProperty .height
    let targetWidth := toString width
    let targetHeight := toString height
    if originalWidth = targetWidth ∧ originalHeight = targetHeight then
      pure false
    else
      match ← attempt (update originalWidth originalHeight targetWidth targetHeight) with
      | .ok () => pure true
      | .error updateError =>
        match ← attempt (restoreResolutionProperties originalWidth originalHeight) with
        | .ok () =>
          throw ⟨updateError.kind,
            "failed to configure Waydroid render size: " ++ updateError.detail⟩
        | .error rollbackError =>
          throw ⟨.other, "failed to configure Waydroid render size: " ++ updateError.detail ++
            "; rollback also failed: " ++ rollbackError.detail⟩

/-! ### The assumptions -/

/-- The two originals are read as they are, or not at all, and what is read instead of a value
later is not the size asked for. -/
structure ReadsBack (control : PropertyControl) (width height : ℕ) : Prop where
  originals : ∀ n < control.calls + 2, ∀ text, control.reads n ≠ .garbled text
  mismatch : ∀ n text, control.reads n = .garbled text →
    text ≠ toString width ∧ text ≠ toString height

/-- Where the properties are about to be restored, if it comes to that. -/
def restorePoint (width height : ℕ) (control : PropertyControl) : Option PropertyControl :=
  if ¬ Renderable width height then none
  else match getProperty .width control with
    | .error .. => none
    | .ok originalWidth control₁ =>
      match getProperty .height control₁ with
      | .error .. => none
      | .ok originalHeight control₂ =>
        if originalWidth = toString width ∧ originalHeight = toString height then none
        else match
          update originalWidth originalHeight (toString width) (toString height) control₂ with
          | .ok .. => none
          | .error _ control₃ => some control₃

/-- If it comes to restoring the properties, the two writes store what they are given. -/
def Restores (control : PropertyControl) (width height : ℕ) : Prop :=
  ∀ c ∈ restorePoint width height control,
    c.writes c.calls = .stored ∧ c.writes (c.calls + 1) = .stored

instance (control : PropertyControl) (width height : ℕ) :
    Decidable (Restores control width height) :=
  inferInstanceAs (Decidable (∀ c ∈ _, _))

/-! ### The calls -/

/-- A read gives the value, or it is garbled. -/
theorem wp_getProperty (control : PropertyControl) (property : Property) :
    wp (getProperty property)
      (fun text c => c = control.next ∧
        (text = control.value property ∨ control.reads control.calls = .garbled text))
      (fun _ c => c = control.next) control := by
  unfold wp getProperty
  cases hfate : control.reads control.calls with
  | value => exact ⟨rfl, Or.inl rfl⟩
  | failure error => exact rfl
  | garbled text => exact ⟨rfl, Or.inr rfl⟩

theorem reads_leave (control : PropertyControl) (property : Property) (left : Option String) :
    (control.leave property left).reads = control.reads := by
  cases left <;> rfl

/-- A write does not change what becomes of the reads. -/
theorem wp_setProperty (control : PropertyControl) (property : Property) (text : String) :
    wp (setProperty property text) (fun _ c => c.reads = control.reads) (fun _ _ => True)
      control := by
  unfold wp setProperty
  cases hfate : control.writes control.calls with
  | stored => exact rfl
  | failure error left => exact trivial
  | ignored left => exact reads_leave control.next property left

theorem wp_updateProperty (control : PropertyControl) (property : Property)
    (original target : String) :
    wp (updateProperty property original target) (fun _ c => c.reads = control.reads)
      (fun _ _ => True) control := by
  rw [updateProperty, wp_ite]
  split
  · exact wp_setProperty control property target
  · exact rfl

/-- What reads back as a text that is never read for another one is that text. -/
theorem eq_of_reads {control : PropertyControl} {property : Property} {target text : String}
    (hmismatch : ∀ n text, control.reads n = .garbled text → text ≠ target)
    (hread : text = control.value property ∨ control.reads control.calls = .garbled text)
    (htext : text = target) : control.value property = target := by
  rcases hread with hread | hread
  · exact hread.symm.trans htext
  · exact absurd htext (hmismatch _ _ hread)

/-- An update that succeeds has read back the targets. -/
theorem wp_update {control : PropertyControl} {targetWidth targetHeight : String}
    (hmismatch : ∀ n text, control.reads n = .garbled text →
      text ≠ targetWidth ∧ text ≠ targetHeight)
    (originalWidth originalHeight : String) :
    wp (update originalWidth originalHeight targetWidth targetHeight)
      (fun _ c => c.value .width = targetWidth ∧ c.value .height = targetHeight)
      (fun _ _ => True) control := by
  rw [update, wp_bind]
  refine wp_mono (wp_updateProperty control .width _ _) (fun _ c₁ hreads₁ => ?_) fun _ _ h => h
  rw [wp_bind]
  refine wp_mono (wp_updateProperty c₁ .height _ _) (fun _ c₂ hreads₂ => ?_) fun _ _ h => h
  have hreads : c₂.reads = control.reads := hreads₂.trans hreads₁
  rw [wp_bind]
  refine wp_mono (wp_getProperty c₂ .width) ?_ fun _ _ _ => trivial
  rintro savedWidth _ ⟨rfl, hwidth⟩
  rw [wp_bind]
  refine wp_mono (wp_getProperty c₂.next .height) ?_ fun _ _ _ => trivial
  rintro savedHeight _ ⟨rfl, hheight⟩
  simp only [wp_ite, wp_throw, wp_pure]
  split
  · exact trivial
  · next hsaved =>
    rw [not_or, not_not, not_not] at hsaved
    constructor
    · refine @eq_of_reads c₂ _ _ _ (fun n text h => ?_) hwidth hsaved.1
      exact (hmismatch n text (hreads ▸ h)).1
    · refine @eq_of_reads c₂.next _ _ _ (fun n text h => ?_) hheight hsaved.2
      exact (hmismatch n text (hreads ▸ h)).2

/-- Two writes that store what they are given restore the properties. -/
theorem restoreResolutionProperties_eq {control : PropertyControl}
    (hwidth : control.writes control.calls = .stored)
    (hheight : control.writes (control.calls + 1) = .stored) (width height : String) :
    restoreResolutionProperties width height control =
      .ok () ((control.next.setValue .width width).next.setValue .height height) := by
  have hsetWidth : setProperty .width width control = .ok () (control.next.setValue .width width) := by
    rw [setProperty, hwidth]
  have hsetHeight : setProperty .height height (control.next.setValue .width width) =
      .ok () ((control.next.setValue .width width).next.setValue .height height) := by
    have hfate : (control.next.setValue .width width).writes
        (control.next.setValue .width width).calls = .stored := hheight
    rw [setProperty, hfate]
  simp only [restoreResolutionProperties, bind, EStateM.bind, attempt, hsetWidth, hsetHeight]
  rfl

/-! ### The change as a whole -/

/-- The originals are read as they are. -/
theorem eq_value_of_reads {control : PropertyControl} {property : Property} {text : String}
    (horiginal : ∀ text, control.reads control.calls ≠ .garbled text)
    (hread : text = control.value property ∨ control.reads control.calls = .garbled text) :
    text = control.value property :=
  hread.resolve_right (horiginal text)

/-- **The change of the render size succeeds with both properties as requested, or fails with both
as they were**, whatever call fails or misses, as long as the originals can be trusted and the
restoring writes succeed. -/
theorem configureResolution_all_or_nothing {control : PropertyControl} {width height : ℕ}
    (hreads : ReadsBack control width height) (hrestores : Restores control width height) :
    wp (configureResolutionProperties width height)
      (fun _ c => c.value .width = toString width ∧ c.value .height = toString height)
      (fun _ c => c.value = control.value) control := by
  rw [configureResolutionProperties, wp_ite]
  split
  · exact rfl
  next hrenderable =>
  rw [wp_bind]
  refine wp_mono (wp_and (wp_self _ control) (wp_getProperty control .width)) ?_ ?_
  swap
  · rintro error _ ⟨-, rfl⟩
    exact rfl
  rintro originalWidth _ ⟨hgetWidth, rfl, hwidth⟩
  have hwidth := eq_value_of_reads (hreads.originals _ (by omega)) hwidth
  rw [wp_bind]
  refine wp_mono (wp_and (wp_self _ control.next) (wp_getProperty control.next .height)) ?_ ?_
  swap
  · rintro error _ ⟨-, rfl⟩
    exact rfl
  rintro originalHeight _ ⟨hgetHeight, rfl, hheight⟩
  have hheight : originalHeight = control.value .height := by
    refine @eq_value_of_reads control.next _ _ (hreads.originals _ ?_) hheight
    change control.calls + 1 < control.calls + 2
    omega
  simp only [wp_ite]
  split
  · next hsame =>
    obtain ⟨hsameWidth, hsameHeight⟩ := hsame
    exact ⟨hwidth.symm.trans hsameWidth, hheight.symm.trans hsameHeight⟩
  next hdiffer =>
  rw [wp_bind, wp_attempt]
  have hupdate := @wp_update control.next.next (toString width) (toString height) hreads.mismatch
    originalWidth originalHeight
  refine wp_mono (wp_and (wp_self _ control.next.next) hupdate) (fun _ c h => h.2) ?_
  rintro updateError c ⟨hfails, -⟩
  have hpoint : restorePoint width height control = some c := by
    simp only [restorePoint, if_neg hrenderable, hgetWidth, hgetHeight, if_neg hdiffer, hfails]
  obtain ⟨hstoresWidth, hstoresHeight⟩ := hrestores c hpoint
  rw [wp_bind, wp_attempt]
  refine wp_of_ok (restoreResolutionProperties_eq hstoresWidth hstoresHeight _ _) ?_
  rw [wp_throw]
  funext property
  cases property with
  | width => exact hwidth
  | height => exact hheight

/-- The height cannot be written, and the width is written back. -/
theorem configureResolution_all_or_nothing_partial :
    let control : PropertyControl :=
      { value := fun | .width => "1920" | .height => "1080"
        reads := fun _ => .value
        writes := fun n => if n = 3 then .failure ⟨.other, "broken"⟩ none else .stored
        calls := 0 }
    wp (configureResolutionProperties 1280 720)
      (fun _ c => c.value .width = toString 1280 ∧ c.value .height = toString 720)
      (fun _ c => c.value = control.value) control :=
  configureResolution_all_or_nothing ⟨fun _ _ _ => nofun, fun _ _ => nofun⟩ (by decide +kernel)

end WaydroidProperties

end Wroid
