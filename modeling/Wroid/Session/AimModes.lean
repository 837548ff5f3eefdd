import Wroid.Session.AimActivity
import Wroid.Session.CursorMode

/-!
# The aims across releases and changes of mode

An aim without a toggle key runs while input is captured; one with a toggle key is switched on
and off by it.  A release and a change of mode stop every aim, and all that is remembered is
whether any was active: a capture, or a change to aim mode, then starts all of them or only
those without a toggle key.  So the loop keeps the aims as their keys left them only when they
agree at that moment.

## Main definitions

* `EventLoop.countedStep` — a step of the loop that counts the presses of each key.
* `EventLoop.AimsKept` — every aim is as the presses of its key left it.
* `EventLoop.AimsAgree` — what a release and a change to aim mode have to find.

## Main results

* `aims_follow_presses` — **runs in which the aims agree when it matters keep each aim as its
  own key left it**.
* `recapture_starts_other_aim` — other runs do not.
-/

namespace Wroid

open Lib UnifiedRuntime

/-- Whether an aim should be active, after its key was pressed so many times. -/
def aimWanted (presses : HostKeyName → ℕ) (aim : AimState) : Bool :=
  match aim.toggleKey with
  | none => true
  | some key => presses key % 2 = 1

namespace UnifiedRuntime

variable {I : Type} {rt : UnifiedRuntime I}

theorem aimActive_eq_false : rt.aimActive = false ↔ ∀ aim ∈ rt.aims, aim.active = false := by
  simp only [aimActive, List.any_eq_false, Bool.not_eq_true, Option.any_eq_false, aims,
    List.mem_filterMap, ControlCell.aimState, Option.map_eq_some_iff]
  constructor
  · rintro h _ ⟨cell, hcell, c, hc, rfl⟩
    exact h cell hcell c hc
  · exact fun h cell hcell c hc => h _ ⟨cell, hcell, c, hc, rfl⟩

/-- In UI mode no aim runs without a toggle key. -/
theorem hasAlwaysOnAim_eq_false (h : rt.AimsLinked) :
    rt.hasAlwaysOnAim = false ↔ ∀ aim ∈ rt.aims, aim.toggleKey.isSome = true := by
  simp only [hasAlwaysOnAim, List.any_eq_false, Bool.not_eq_true, Option.any_eq_false, aims,
    List.mem_filterMap, ControlCell.aimState, Option.map_eq_some_iff]
  constructor
  · rintro hnone _ ⟨cell, hcell, c, hc, rfl⟩
    have := hnone cell hcell c hc
    rw [(h cell hcell).isNone_eq hc] at this
    simpa using this
  · intro hsome cell hcell c hc
    rw [(h cell hcell).isNone_eq hc]
    simpa using hsome _ ⟨cell, hcell, c, hc, rfl⟩

theorem hasToggleKeyAim_eq_false (h : rt.AimsLinked) :
    rt.hasToggleKeyAim = false ↔ ∀ aim ∈ rt.aims, aim.toggleKey = none := by
  simp only [hasToggleKeyAim, List.any_eq_false, Bool.not_eq_true, Option.any_eq_false, aims,
    List.mem_filterMap, ControlCell.aimState, Option.map_eq_some_iff]
  constructor
  · rintro hnone _ ⟨cell, hcell, c, hc, rfl⟩
    have := (h cell hcell).isNone_eq hc
    rw [← Option.not_isSome, hnone cell hcell c hc] at this
    simpa using this
  · intro hall cell hcell c hc
    have hnone : cell.layout.aimToggleKey = none := hall _ ⟨cell, hcell, c, hc, rfl⟩
    have := (h cell hcell).isNone_eq hc
    simpa [hnone] using this

end UnifiedRuntime

namespace EventLoop

variable {I : Type} [TouchInjector I] {options : LoopOptions} {moment : Moment}
  {loop : EventLoop I} {presses : HostKeyName → ℕ}

/-- Either no aim is active, or all those with a toggle key are. -/
def AimsAgree (rt : UnifiedRuntime I) : Prop :=
  rt.aimActive = true → ∀ aim ∈ rt.aims, aim.toggleKey.isSome = true → aim.active = true

/-- The step reduces the aims to whether any is active: it releases the input, or changes UI
mode to aim mode. -/
def SumsUpAims (options : LoopOptions) (loop : EventLoop I) : LoopEvent → Prop
  | .focus (.changed false) | .focus .unavailable =>
    loop.focusProtected = true ∧ loop.inputActive = true
  | .key ⟨.f12, .pressed⟩ => loop.inputActive = true
  | .syncMode =>
    loop.inputActive = true ∧ loop.mode = .ui ∧ desiredMode options loop.runtime = .aim
  | _ => False

instance (options : LoopOptions) (loop : EventLoop I) (event : LoopEvent) :
    Decidable (SumsUpAims options loop event) := by
  unfold SumsUpAims
  split <;> infer_instance

/-- One more press of a key, if the step hands it to the runtime and it activates no layer. -/
def countPress (loop : EventLoop I) (event : LoopEvent) (presses : HostKeyName → ℕ) :
    HostKeyName → ℕ :=
  match event with
  | .key ⟨.named key, .pressed⟩ =>
    if loop.inputActive && (loop.runtime.setup.layerControls key).isNone then
      Function.update presses key (presses key + 1)
    else presses
  | _ => presses

/-- A step of the loop, with the presses counted. -/
def countedStep (options : LoopOptions) (e : LoopEvent × Moment) :
    EStateM LoopEnd (EventLoop I × (HostKeyName → ℕ)) Unit := do
  modify fun t => (t.1, countPress t.1 e.1 t.2)
  zoom Prod.fst (fun loop t => (loop, t.2)) (step options e)

/-- Every aim is as the presses of its key left it, or will be once input is captured. -/
structure AimsKept (options : LoopOptions) (presses : HostKeyName → ℕ) (loop : EventLoop I) :
    Prop where
  linked : loop.runtime.AimsLinked
  captured : loop.inputActive = true → ∀ aim ∈ loop.runtime.aims, aim.active = aimWanted presses aim
  released : loop.inputActive = false → ∀ aim ∈ loop.runtime.aims, aim.active = false ∧
    (aim.toggleKey.isSome = true → aimWanted presses aim = loop.toggleAimActiveBeforeRelease)
  /-- In UI mode every aim has a toggle key. -/
  ui : loop.mode = .ui → options.overlay = true ∧
    ∀ aim ∈ loop.runtime.aims, aim.toggleKey.isSome = true
  uiReleased : loop.mode = .ui → loop.inputActive = false →
    loop.toggleAimActiveBeforeRelease = false

theorem aimWanted_of_none {aim : AimState} (h : aim.toggleKey = none) :
    aimWanted presses aim = true := by
  simp [aimWanted, h]

@[simp] theorem aimWanted_stopped (aim : AimState) :
    aimWanted presses aim.stopped = aimWanted presses aim := rfl

@[simp] theorem aimWanted_restored (reactivate : Bool) (aim : AimState) :
    aimWanted presses (aim.restored reactivate) = aimWanted presses aim := rfl

omit [TouchInjector I] in
/-- A press of its key is what an aim is toggled by. -/
theorem aimWanted_after (loop : EventLoop I) (hactive : loop.inputActive = true)
    (event : HostKeyEvent) (aim : AimState) (h : aim.active = aimWanted presses aim) :
    (aimAfterKeyboard loop.runtime.setup event aim).active =
      aimWanted (countPress loop (.key event) presses)
        (aimAfterKeyboard loop.runtime.setup event aim) := by
  unfold aimAfterKeyboard
  split
  · next key =>
    have hcount : countPress loop (.key ⟨.named key, .pressed⟩) presses =
        if (loop.runtime.setup.layerControls key).isNone then
          Function.update presses key (presses key + 1)
        else presses := by simp [countPress, hactive]
    rw [hcount]
    cases hlayer : loop.runtime.setup.layerControls key with
    | some control => simpa using h
    | none =>
      simp only [Option.isSome_none, Bool.false_eq_true, if_false, Option.isNone_none, if_true,
        AimState.toggled]
      cases htoggle : aim.toggleKey with
      | none => simpa [aimWanted, htoggle] using h
      | some other =>
        by_cases hkey : other = key
        · subst hkey
          simp only [aimWanted, htoggle, if_true, Function.update_self] at h ⊢
          rw [h, ← decide_not, decide_eq_decide]
          omega
        · have hne : ¬ (some other = some key) := fun heq => hkey (Option.some.inj heq)
          simpa [aimWanted, htoggle, hne, hkey] using h
  · next hother =>
    unfold countPress
    split
    · next key heq => exact absurd (LoopEvent.key.inj heq) (hother key)
    · exact h

section Steps

omit [TouchInjector I] in
/-- A call that changes no aim. -/
theorem AimsKept.of_same {loop' : EventLoop I} (h : AimsKept options presses loop)
    (hrt : AimsStep id loop.runtime loop'.runtime) (hactive : loop'.inputActive = loop.inputActive)
    (hmode : loop'.mode = loop.mode) (htoggle : loop'.toggleAimActiveBeforeRelease =
      loop.toggleAimActiveBeforeRelease) : AimsKept options presses loop' := by
  have haims : loop'.runtime.aims = loop.runtime.aims := by rw [hrt.aims, List.map_id]
  refine ⟨hrt.linked, ?_, ?_, ?_, ?_⟩
  · rw [hactive, haims]
    exact h.captured
  · rw [hactive, haims, htoggle]
    exact h.released
  · rw [hmode, haims]
    exact h.ui
  · rw [hmode, hactive, htoggle]
    exact h.uiReleased

omit [TouchInjector I] in
/-- A step that does not look at the runtime. -/
theorem AimsKept.of_runtime_eq {loop' : EventLoop I} (h : AimsKept options presses loop)
    (hrt : loop'.runtime = loop.runtime) (hactive : loop'.inputActive = loop.inputActive)
    (hmode : loop'.mode = loop.mode) (htoggle : loop'.toggleAimActiveBeforeRelease =
      loop.toggleAimActiveBeforeRelease) : AimsKept options presses loop' :=
  h.of_same (.of_eq h.linked (by rw [hrt]) (by rw [hrt])) hactive hmode htoggle

/-- Entering aim mode. -/
theorem enterAim_spec {reactivate : Bool} {Q : Unit → EventLoop I → Prop}
    (h : loop.runtime.AimsLinked)
    (hQ : ∀ rt, AimsStep (AimState.restored reactivate) loop.runtime rt →
      Q () { loop with runtime := rt }) :
    wp (applyInputMode options moment .aim reactivate) Q (fun _ _ => True) loop :=
  applyInputMode_spec (fun _ => restoreAim_aims reactivate moment.now h) (fun hui => by cases hui) hQ

/-- Entering UI mode. -/
theorem enterUi_spec {reactivate : Bool} {Q : Unit → EventLoop I → Prop}
    (h : loop.runtime.AimsLinked)
    (hQ : ∀ rt, AimsStep AimState.stopped loop.runtime rt → Q () { loop with runtime := rt }) :
    wp (applyInputMode options moment .ui reactivate) Q (fun _ _ => True) loop := by
  refine applyInputMode_spec (fun haim => by cases haim) (fun _ => ?_) hQ
  rw [wp_bind]
  refine wp_mono (disableAim_aims moment.now h) (fun _ rt₁ h₁ => ?_) fun _ _ _ => trivial
  exact wp_mono (releaseMouseButtons_aims moment.now h₁.linked) (fun _ rt₂ h₂ => h₁.trans h₂)
    fun _ _ _ => trivial

omit [TouchInjector I] in
theorem desiredMode_eq_ui {rt : UnifiedRuntime I} (h : desiredMode options rt = .ui) :
    rt.aimActive = false ∧ options.overlay = true := by
  unfold desiredMode at h
  split at h
  · cases h
  · next hui => simp_all

/-- **A release** loses nothing when the aims agree. -/
theorem release_aimsKept (h : AimsKept options presses loop) (hactive : loop.inputActive = true)
    (hagree : AimsAgree loop.runtime) :
    wp (release options moment) (fun _ loop' => AimsKept options presses loop')
      (fun _ _ => True) loop := by
  have hcaptured := h.captured hactive
  -- what is remembered says what every toggle key did
  have hsum : ∀ aim ∈ loop.runtime.aims, aim.toggleKey.isSome = true →
      aim.active = loop.runtime.aimActive := by
    intro aim haim hsome
    cases hany : loop.runtime.aimActive with
    | true => exact hagree hany aim haim hsome
    | false => exact aimActive_eq_false.mp hany aim haim
  simp only [release, releaseInputToOs, wp_bind, wp_modify, wp_onRuntime]
  refine wp_device (wp_device (wp_overlayRequest ?_))
  refine wp_mono (suspend_aims h.linked) (fun _ rt hrt => ?_) fun _ _ _ => trivial
  refine ⟨hrt.linked, (fun hfalse => by cases hfalse), fun _ aim haim => ?_, fun hui => ?_,
    fun hui _ => (desiredMode_eq_ui hui).1⟩
  · rw [hrt.aims] at haim
    obtain ⟨aim, hmem, rfl⟩ := List.mem_map.mp haim
    exact ⟨rfl, fun hsome => by rw [aimWanted_stopped, ← hcaptured aim hmem, hsum aim hmem hsome]⟩
  · refine ⟨(desiredMode_eq_ui hui).2, fun aim haim => ?_⟩
    rw [hrt.aims] at haim
    obtain ⟨aim, hmem, rfl⟩ := List.mem_map.mp haim
    have hidle := aimActive_eq_false.mp (desiredMode_eq_ui hui).1 aim hmem
    by_contra hnone
    rw [hcaptured aim hmem, aimWanted_of_none (by simpa [AimState.stopped] using hnone)] at hidle
    cases hidle

/-- **A capture** restores the aims. -/
theorem capture_aimsKept (h : AimsKept options presses loop) (hreleased : loop.inputActive = false) :
    wp (capture options moment) (fun _ loop' => AimsKept options presses loop')
      (fun _ _ => True) loop := by
  have hidle := h.released hreleased
  simp only [capture, wp_bind, wp_get, wp_modify]
  refine wp_device ?_
  cases hmode : loop.mode with
  | aim =>
    refine enterAim_spec h.linked fun rt hrt => ?_
    refine ⟨hrt.linked, fun _ aim haim => ?_, (fun hfalse => by cases hfalse), (fun hui => by
      cases hmode.symm.trans hui), fun _ hfalse => by cases hfalse⟩
    rw [hrt.aims] at haim
    obtain ⟨aim, hmem, rfl⟩ := List.mem_map.mp haim
    obtain ⟨hoff, hwanted⟩ := hidle aim hmem
    rw [aimWanted_restored]
    cases htoggle : aim.toggleKey with
    | none => simp [AimState.restored, htoggle, aimWanted_of_none htoggle]
    | some key => simp [AimState.restored, hoff, htoggle, hwanted (by simp [htoggle])]
  | ui =>
    obtain ⟨hoverlay, hsome⟩ := h.ui hmode
    refine enterUi_spec h.linked fun rt hrt => ?_
    have haims : ∀ aim ∈ rt.aims, ∃ aim' ∈ loop.runtime.aims, aim'.stopped = aim := fun aim haim =>
      List.mem_map.mp (hrt.aims ▸ haim)
    refine ⟨hrt.linked, fun _ aim haim => ?_, (fun hfalse => by cases hfalse), fun _ =>
      ⟨hoverlay, fun aim haim => ?_⟩, fun _ hfalse => by cases hfalse⟩
    · obtain ⟨aim, hmem, rfl⟩ := haims aim haim
      rw [aimWanted_stopped, (hidle aim hmem).2 (hsome aim hmem), h.uiReleased hmode hreleased]
      rfl
    · obtain ⟨aim, hmem, rfl⟩ := haims aim haim
      exact hsome aim hmem

theorem focusChanged_aimsKept (focused : Bool) (h : AimsKept options presses loop)
    (hagree : SumsUpAims options loop (.focus (.changed focused)) → AimsAgree loop.runtime) :
    wp (focusChanged options moment focused) (fun _ loop' => AimsKept options presses loop')
      (fun _ _ => True) loop := by
  simp only [focusChanged, wp_bind, wp_get, wp_ite, wp_set, wp_pure]
  split
  · next hprotected =>
    split
    · split
      · next hcapture =>
        simp only [Bool.and_eq_true, Bool.not_eq_true'] at hcapture
        exact capture_aimsKept (h.of_runtime_eq rfl rfl rfl rfl) hcapture.2
      · exact h.of_runtime_eq rfl rfl rfl rfl
    · next hfocused =>
      split
      · next hactive =>
        obtain rfl : focused = false := by simpa using hfocused
        exact release_aimsKept (h.of_runtime_eq rfl rfl rfl rfl) hactive
          (hagree ⟨hprotected, hactive⟩)
      · exact h.of_runtime_eq rfl rfl rfl rfl
  · exact h.of_runtime_eq rfl rfl rfl rfl

theorem focusUnavailable_aimsKept (h : AimsKept options presses loop)
    (hagree : SumsUpAims options loop (.focus .unavailable) → AimsAgree loop.runtime) :
    wp (focusUnavailable options moment) (fun _ loop' => AimsKept options presses loop')
      (fun _ _ => True) loop := by
  simp only [focusUnavailable, wp_bind, wp_get, wp_ite, wp_set, wp_pure]
  split
  · next hprotected =>
    split
    · next hactive =>
      exact release_aimsKept (h.of_runtime_eq rfl rfl rfl rfl) hactive (hagree ⟨hprotected, hactive⟩)
    · exact h.of_runtime_eq rfl rfl rfl rfl
  · exact h

theorem releaseHotkey_aimsKept (h : AimsKept options presses loop)
    (hagree : SumsUpAims options loop (.key ⟨.f12, .pressed⟩) → AimsAgree loop.runtime) :
    wp (releaseHotkey options moment) (fun _ loop' => AimsKept options presses loop')
      (fun _ _ => True) loop := by
  simp only [releaseHotkey, wp_bind, wp_modify, wp_get, wp_ite, wp_set, wp_pure]
  split
  · next hactive =>
    exact release_aimsKept (h.of_runtime_eq rfl rfl rfl rfl) hactive (hagree hactive)
  · next hreleased =>
    have hreleased : loop.inputActive = false := by simpa using hreleased
    split
    · refine wp_mono (capture_aimsKept (h.of_runtime_eq rfl rfl rfl rfl) hreleased) ?_
        fun _ _ _ => trivial
      exact fun _ loop' h' => h'.of_runtime_eq rfl rfl rfl rfl
    · exact h.of_runtime_eq rfl rfl rfl rfl

theorem key_aimsKept (event : HostKeyEvent) (h : AimsKept options presses loop)
    (hagree : SumsUpAims options loop (.key event) → AimsAgree loop.runtime) :
    wp (key options moment event)
      (fun _ loop' => AimsKept options (countPress loop (.key event) presses) loop')
      (fun _ _ => True) loop := by
  obtain ⟨hostKey, transition⟩ := event
  simp only [key, wp_bind, wp_get, wp_ite, wp_set, wp_pure, wp_throw, wp_onRuntime]
  split
  · next hf12 =>
    obtain rfl : hostKey = .f12 := hf12
    split
    · next hpressed =>
      obtain rfl : transition = .pressed := hpressed
      exact releaseHotkey_aimsKept h hagree
    · exact h
  · split
    · next hactive =>
      split
      · trivial
      split
      · trivial
      refine wp_mono (handleKeyboard_aims _ moment.now h.linked) (fun _ rt hrt => ?_)
        fun _ _ _ => trivial
      have haims : ∀ aim ∈ rt.aims, ∃ aim' ∈ loop.runtime.aims,
          aimAfterKeyboard loop.runtime.setup ⟨hostKey, transition⟩ aim' = aim := fun aim haim =>
        List.mem_map.mp (hrt.aims ▸ haim)
      have hkey : ∀ aim, (aimAfterKeyboard loop.runtime.setup ⟨hostKey, transition⟩ aim).toggleKey =
          aim.toggleKey := by
        intro aim
        unfold aimAfterKeyboard
        split
        · split <;> rfl
        · rfl
      refine ⟨hrt.linked, fun _ aim haim => ?_, fun hreleased => ?_, fun hui => ?_, fun _ hreleased =>
        ?_⟩
      · obtain ⟨aim, hmem, rfl⟩ := haims aim haim
        exact aimWanted_after loop hactive _ aim (h.captured hactive aim hmem)
      · cases hactive.symm.trans hreleased
      · refine ⟨(h.ui hui).1, fun aim haim => ?_⟩
        obtain ⟨aim, hmem, rfl⟩ := haims aim haim
        rw [hkey]
        exact (h.ui hui).2 aim hmem
      · cases hactive.symm.trans hreleased
    · next hidle =>
      have hcount : countPress loop (.key ⟨hostKey, transition⟩) presses = presses := by
        unfold countPress
        split
        · simp [hidle]
        · rfl
      rw [hcount]
      exact h

/-- **A change of mode** loses nothing when the aims agree. -/
theorem syncMode_aimsKept (h : AimsKept options presses loop)
    (hagree : SumsUpAims options loop .syncMode → AimsAgree loop.runtime) :
    wp (syncMode options moment) (fun _ loop' => AimsKept options presses loop')
      (fun _ _ => True) loop := by
  simp only [syncMode, wp_bind, wp_get, wp_ite, wp_modify, wp_pure]
  split
  · next hchange =>
    simp only [Bool.and_eq_true, decide_eq_true_eq] at hchange
    obtain ⟨hactive, hne⟩ := hchange
    have hcaptured := h.captured hactive
    cases hnext : desiredMode options loop.runtime with
    | aim =>
      have hui : loop.mode = .ui := by
        cases hmode : loop.mode with
        | aim => exact absurd (hnext.trans hmode.symm) hne
        | ui => rfl
      obtain ⟨hoverlay, hsome⟩ := h.ui hui
      have hall : ∀ aim ∈ loop.runtime.aims, aim.active = true := by
        intro aim haim
        refine hagree ⟨hactive, hui, hnext⟩ ?_ aim haim (hsome aim haim)
        by_contra hidle
        have htoggle : loop.runtime.hasToggleKeyAim = false := by
          by_contra htoggle
          simp [desiredMode, hidle, htoggle, hoverlay] at hnext
        have hnone := (hasToggleKeyAim_eq_false h.linked).mp htoggle aim haim
        simpa [hnone] using hsome aim haim
      refine enterAim_spec h.linked fun rt hrt => ?_
      refine ⟨hrt.linked, fun _ aim haim => ?_, fun hreleased => ?_, (fun hui => by cases hui),
        fun _ hreleased => ?_⟩
      · rw [hrt.aims] at haim
        obtain ⟨aim, hmem, rfl⟩ := List.mem_map.mp haim
        rw [aimWanted_restored, ← hcaptured aim hmem, hall aim hmem]
        simp [AimState.restored, hall aim hmem]
      · cases hactive.symm.trans hreleased
      · cases hactive.symm.trans hreleased
    | ui =>
      obtain ⟨hidle, hoverlay⟩ := desiredMode_eq_ui hnext
      have hidle := aimActive_eq_false.mp hidle
      refine enterUi_spec h.linked fun rt hrt => ?_
      have haims : ∀ aim ∈ rt.aims, ∃ aim' ∈ loop.runtime.aims, aim'.stopped = aim := fun aim haim =>
        List.mem_map.mp (hrt.aims ▸ haim)
      refine ⟨hrt.linked, fun _ aim haim => ?_, fun hreleased => ?_, fun _ =>
        ⟨hoverlay, fun aim haim => ?_⟩, fun _ hreleased => ?_⟩
      · obtain ⟨aim, hmem, rfl⟩ := haims aim haim
        rw [aimWanted_stopped, ← hcaptured aim hmem, hidle aim hmem]
        rfl
      · cases hactive.symm.trans hreleased
      · obtain ⟨aim, hmem, rfl⟩ := haims aim haim
        by_contra hnone
        have hoff := hidle aim hmem
        rw [hcaptured aim hmem, aimWanted_of_none (by simpa [AimState.stopped] using hnone)] at hoff
        cases hoff
      · cases hactive.symm.trans hreleased
  · exact h

theorem driveCursor_aimsKept (event : MouseEvent) (h : AimsKept options presses loop) :
    wp (driveCursor event) (fun _ loop' => AimsKept options presses loop')
      (fun _ _ => True) loop := by
  unfold driveCursor
  split <;> simp only [wp_bind, wp_modify, wp_get, wp_ite, wp_onRuntime, wp_pure]
  · split
    · exact wp_mono (cursorMove_aims _ h.linked) (fun _ rt hrt => h.of_same hrt rfl rfl rfl)
        fun _ _ _ => trivial
    · exact h.of_runtime_eq rfl rfl rfl rfl
  · exact wp_mono (cursorDown_aims _ h.linked) (fun _ rt hrt => h.of_same hrt rfl rfl rfl)
      fun _ _ _ => trivial
  · exact wp_mono (cursorUp_aims h.linked) (fun _ rt hrt => h.of_same hrt rfl rfl rfl)
      fun _ _ _ => trivial
  · exact h
  · exact h

theorem mouse_aimsKept (event : MouseEvent) (h : AimsKept options presses loop) :
    wp (mouse moment event) (fun _ loop' => AimsKept options presses loop')
      (fun _ _ => True) loop := by
  simp only [mouse, wp_bind, wp_get, wp_ite, wp_pure]
  split
  · split
    · simp only [wp_bind, wp_onRuntime, wp_pure]
      exact wp_mono (handleMouse_aims event moment.now h.linked)
        (fun _ rt hrt => h.of_same hrt rfl rfl rfl) fun _ _ _ => trivial
    · exact driveCursor_aimsKept event h
  · exact h

theorem cursor_aimsKept (event : CursorEvent) (h : AimsKept options presses loop) :
    wp (cursor event) (fun _ loop' => AimsKept options presses loop') (fun _ _ => True) loop := by
  simp only [cursor, wp_bind, wp_get, wp_ite, wp_pure]
  split
  · split
    · split
      · rw [wp_onRuntime]
        exact wp_mono (cursorMove_aims _ h.linked) (fun _ rt hrt => h.of_same hrt rfl rfl rfl)
          fun _ _ _ => trivial
      · exact h
    · split
      · rw [wp_onRuntime, wp_ite]
        split
        · exact wp_mono (cursorDown_aims _ h.linked) (fun _ rt hrt => h.of_same hrt rfl rfl rfl)
            fun _ _ _ => trivial
        · exact wp_mono (cursorUp_aims h.linked) (fun _ rt hrt => h.of_same hrt rfl rfl rfl)
            fun _ _ _ => trivial
      · exact h
  · exact h

/-- **A step that finds the aims agreeing when it sums them up** keeps each as its key left
it. -/
theorem step_aimsKept (e : LoopEvent × Moment) (h : AimsKept options presses loop)
    (hagree : SumsUpAims options loop e.1 → AimsAgree loop.runtime) :
    wp (step options e) (fun _ loop' => AimsKept options (countPress loop e.1 presses) loop')
      (fun _ _ => True) loop := by
  obtain ⟨event, moment⟩ := e
  cases event with
  | focus event =>
    cases event with
    | changed focused =>
      simp only [step, wp_ite, wp_pure]
      split
      · exact focusChanged_aimsKept focused h hagree
      · exact h
    | unavailable =>
      simp only [step, wp_ite, wp_pure]
      split
      · exact focusUnavailable_aimsKept h hagree
      · exact h
  | focusFallback elapsed =>
    simp only [step, focusFallback, wp_ite, wp_modify, wp_pure]
    split
    · split <;> exact h.of_runtime_eq rfl rfl rfl rfl
    · exact h
  | key event => exact key_aimsKept event h hagree
  | syncMode => exact syncMode_aimsKept h hagree
  | mouse event => exact mouse_aimsKept event h
  | cursor event => exact cursor_aimsKept event h
  | readersFailed message => trivial
  | tick =>
    simp only [step, tick, wp_bind, wp_get, wp_ite, wp_onRuntime, wp_pure]
    split
    · exact wp_mono (tick_aims moment.now h.linked) (fun _ rt hrt => h.of_same hrt rfl rfl rfl)
        fun _ _ _ => trivial
    · exact h

end Steps

/-! ### Runs -/

/-- The loop before it starts: no aim is active. -/
structure AimsFresh (options : LoopOptions) (loop : EventLoop I) : Prop where
  linked : loop.runtime.AimsLinked
  idle : ∀ aim ∈ loop.runtime.aims, aim.active = false
  notRemembered : loop.toggleAimActiveBeforeRelease = false
  ui : loop.mode = .ui → options.overlay = true ∧
    ∀ aim ∈ loop.runtime.aims, aim.toggleKey.isSome = true

theorem enter_aimsKept (h : AimsFresh options loop) :
    wp (enter options moment) (fun _ loop' => AimsKept options (fun _ => 0) loop')
      (fun _ _ => True) loop := by
  have hwanted : ∀ aim : AimState, aim.toggleKey.isSome = true →
      aimWanted (fun _ => 0) aim = false := by
    intro aim hsome
    obtain ⟨key, hkey⟩ := Option.isSome_iff_exists.mp hsome
    simp [aimWanted, hkey]
  simp only [enter, wp_bind, wp_get, wp_ite, wp_onRuntime, wp_pure]
  split
  · next hactive =>
    refine wp_mono (start_aims moment.now h.linked) (fun _ rt hrt => ?_) fun _ _ _ => trivial
    have hstarted : ∀ aim ∈ rt.aims, ∃ aim' ∈ loop.runtime.aims, aim'.restored false = aim :=
      fun aim haim => List.mem_map.mp (hrt.aims ▸ haim)
    have hui : loop.mode = .ui → options.overlay = true ∧
        ∀ aim ∈ rt.aims, aim.toggleKey.isSome = true := by
      refine fun hmode => ⟨(h.ui hmode).1, fun aim haim => ?_⟩
      obtain ⟨aim, hmem, rfl⟩ := hstarted aim haim
      exact (h.ui hmode).2 aim hmem
    split
    · next hmode =>
      refine enterUi_spec hrt.linked fun rt' hrt' => ?_
      have hstopped : ∀ aim ∈ rt'.aims, ∃ aim' ∈ rt.aims, aim'.stopped = aim := fun aim haim =>
        List.mem_map.mp (hrt'.aims ▸ haim)
      refine ⟨hrt'.linked, fun _ aim haim => ?_, fun hreleased => ?_, fun _ =>
        ⟨(hui hmode).1, fun aim haim => ?_⟩, fun _ hreleased => ?_⟩
      · obtain ⟨aim, hmem, rfl⟩ := hstopped aim haim
        rw [aimWanted_stopped, hwanted aim ((hui hmode).2 aim hmem)]
        rfl
      · cases hactive.symm.trans hreleased
      · obtain ⟨aim, hmem, rfl⟩ := hstopped aim haim
        exact (hui hmode).2 aim hmem
      · cases hactive.symm.trans hreleased
    · refine ⟨hrt.linked, fun _ aim haim => ?_, fun hreleased => ?_, hui, fun _ hreleased => ?_⟩
      · obtain ⟨aim, hmem, rfl⟩ := hstarted aim haim
        rw [aimWanted_restored]
        cases htoggle : aim.toggleKey with
        | none => simp [AimState.restored, htoggle, aimWanted_of_none htoggle]
        | some key => simp [AimState.restored, htoggle, h.idle aim hmem, hwanted aim]
      · cases hactive.symm.trans hreleased
      · cases hactive.symm.trans hreleased
  · next hreleased =>
    refine ⟨h.linked, fun hactive => absurd hactive hreleased, fun _ aim haim => ⟨h.idle aim haim,
      fun hsome => ?_⟩, h.ui, fun _ _ => h.notRemembered⟩
    rw [hwanted aim hsome, h.notRemembered]

variable {plan : RuntimeControlPlan} {profile : ProfileV2} {resolution : Resolution}
  {injector : I} {rt₀ : UnifiedRuntime I} {loop₀ : EventLoop I}

omit [TouchInjector I] in
/-- The controls of an accepted profile know the toggle keys of their aims. -/
theorem new_aimsLinked (hplan : plan.Realizes profile resolution)
    (hbuilt : Built plan injector rt₀) : rt₀.AimsLinked := by
  intro cell hcell c hc
  obtain ⟨control, hcontrol, hcellb⟩ := forall₂_exists_left hbuilt.cells hcell
  obtain ⟨binding, hb, hreal⟩ := forall₂_exists_left hplan.controls hcontrol
  obtain ⟨aim, settings, haction⟩ : ∃ aim settings, control.action = .mouseAim aim settings := by
    by_contra hnone
    rw [(hcellb.noAim fun aim settings haction => hnone ⟨aim, settings, haction⟩).1] at hc
    cases hc
  obtain ⟨c', hnew, hc', htoggle⟩ := hcellb.aim aim settings haction
  obtain rfl : c' = c := Option.some.inj (hc'.symm.trans hc)
  obtain ⟨-, -, hsettings, -⟩ := @MouseAimController.new_agrees _ _ _ hnew (fun _ => none)
    fun _ _ => rfl
  obtain ⟨next, next', hmaterialize⟩ := hreal.action
  have hmakes := materializeAction_ok hmaterialize
  have hfine := (hplan.accepted.bindings binding hb).action
  rw [htoggle, hsettings]
  rw [haction] at hmakes
  cases hkind : binding.action with
  | mouseAim region sensitivity toggleKey threshold gap ads reaffirm =>
    rw [hkind] at hmakes hfine
    obtain ⟨_, _, _, aim', settings', -, haction', -, hkey, -⟩ := hmakes
    obtain ⟨-, rfl⟩ := RuntimeControlAction.mouseAim.inj haction'
    rw [hkey]
    cases htext : toggleKey with
    | none => rfl
    | some text =>
      have hknown := hfine.2.2.1 text (by simp [TextReading.rust, htext])
      obtain ⟨key, hkey⟩ := HostKeyName.exists_parse.mpr (knownKeyName_iff.mpr hknown)
      simp [hkey]
  | tap point | hold point =>
    rw [hkind] at hmakes
    cases hmakes.1
  | virtualJoystick center radius deadZone mode reaffirm =>
    rw [hkind] at hmakes
    obtain ⟨joystick, -, haction', -⟩ := hmakes
    cases haction'
  | macroSteps steps =>
    rw [hkind] at hmakes
    exact hmakes.elim

/-- **While input is captured every aim is as its own key left it**: an aim without a toggle
key is active, and one with a toggle key is active exactly when its key was pressed an odd
number of times.  This holds of every run in which the aims agree whenever a step sums them
up. -/
theorem aims_follow_presses
    (hplan : RuntimeControlPlan.fromProfileV2 profile resolution = .ok plan)
    (hnew : UnifiedRuntime.new plan injector = .ok rt₀) {focused : Bool}
    (henter : enter options moment (.new options focused rt₀) = .ok () loop₀)
    {steps : List (LoopEvent × Moment)}
    (hagree : AllSteps (countedStep options)
      (fun t e => SumsUpAims options t.1 e.1 → AimsAgree t.1.runtime) steps (loop₀, fun _ => 0))
    (hrun : runAll (countedStep options) steps (loop₀, fun _ => 0) = .ok () (loop, presses))
    (hactive : loop.inputActive = true) :
    ∀ cell ∈ loop.runtime.cells, ∀ c ∈ cell.aimController,
      (c.settings.toggleKey = none → c.isActive = true) ∧
      ∀ name, c.settings.toggleKey = some name → ∃ key, HostKeyName.parse name = some key ∧
        (c.isActive = true ↔ Odd (presses key)) := by
  have hplan := fromProfileV2_realizes hplan
  have hbuilt := new_built hnew
  have hlinked := new_aimsLinked hplan hbuilt
  have hidle : ∀ aim ∈ rt₀.aims, aim.active = false := by
    rw [← aimActive_eq_false]
    simp only [aimActive, List.any_eq_false, Bool.not_eq_true, Option.any_eq_false]
    intro cell hcell c hc
    obtain ⟨control, -, hcellb⟩ := forall₂_exists_left hbuilt.cells hcell
    cases hcontrol : control.action with
    | mouseAim aim settings =>
      obtain ⟨c', hnew, hc', -⟩ := hcellb.aim aim settings hcontrol
      obtain rfl : c' = c := Option.some.inj (hc'.symm.trans hc)
      exact (@MouseAimController.new_agrees _ _ _ hnew (fun _ => none) fun _ _ => rfl).2.2.2
    | tap | hold | virtualJoystick =>
      rw [(hcellb.noAim fun _ _ => by simp [hcontrol]).1] at hc
      cases hc
  have hfresh : AimsFresh options (.new options focused rt₀) := by
    refine ⟨hlinked, hidle, rfl, fun hui => ?_⟩
    simp only [EventLoop.new] at hui
    split at hui
    · next hcond =>
      simp only [Bool.and_eq_true, Bool.not_eq_true'] at hcond
      exact ⟨hcond.2, (hasAlwaysOnAim_eq_false hlinked).mp hcond.1.1⟩
    · cases hui
  have hentered := wp_ok (enter_aimsKept hfresh) henter
  have hstep : ∀ e (t : EventLoop I × (HostKeyName → ℕ)),
      (SumsUpAims options t.1 e.1 → AimsAgree t.1.runtime) → AimsKept options t.2 t.1 →
      wp (countedStep options e) (fun _ t => AimsKept options t.2 t.1) (fun _ _ => True) t := by
    intro e t hagree h
    simp only [countedStep, wp_bind, wp_modify, wp_zoom]
    exact step_aimsKept e h hagree
  have hkept := wp_ok (wp_runAll_of_allSteps hstep hagree hentered) hrun
  intro cell hcell c hc
  have haim := hkept.captured hactive ⟨cell.layout.aimToggleKey, c.isActive⟩
    (List.mem_filterMap.mpr ⟨cell, hcell, by simp [ControlCell.aimState, Option.mem_def.mp hc]⟩)
  have hlink := hkept.linked cell hcell c hc
  simp only [aimWanted] at haim
  refine ⟨fun hnone => ?_, fun name hname => ?_⟩
  · have htoggle : cell.layout.aimToggleKey = none := by simpa [hnone] using hlink.symm
    simpa [htoggle] using haim
  · rw [hname, Option.map_some] at hlink
    obtain ⟨key, htoggle, hkey⟩ := Option.map_eq_some_iff.mp hlink.symm
    refine ⟨key, hkey.symm, ?_⟩
    simp only [htoggle] at haim
    rw [haim, decide_eq_true_eq, Nat.odd_iff]

/-- The aim of `aimer` is toggled on, released with F12 and captured again. -/
theorem aimer_follows_presses : ∃ plan rt₀ loop₀ loop presses,
    RuntimeControlPlan.fromProfileV2 aimer ⟨1280, 720⟩ = .ok plan ∧
    UnifiedRuntime.new plan () = .ok rt₀ ∧
    enter ⟨true, true⟩ (.calm 0) (.new ⟨true, true⟩ true rt₀) = .ok () loop₀ ∧
    runAll (countedStep ⟨true, true⟩)
      (calmSteps [keysTurn [.named .t], keysTurn [.f12], keysTurn [.f12]]) (loop₀, fun _ => 0) =
        .ok () (loop, presses) ∧
    ∀ cell ∈ loop.runtime.cells, ∀ c ∈ cell.aimController,
      (c.settings.toggleKey = none → c.isActive = true) ∧
      ∀ name, c.settings.toggleKey = some name → ∃ key, HostKeyName.parse name = some key ∧
        (c.isActive = true ↔ Odd (presses key)) := by
  obtain ⟨rt₀, hlaunch, hrun⟩ := (Option.any_eq_true _ _).mp (by decide +kernel :
    (launch aimer ⟨1280, 720⟩ ()).any (fun rt₀ =>
      returnsWith (fun loop₀ =>
        (AllSteps (countedStep ⟨true, true⟩)
          (fun t e => SumsUpAims ⟨true, true⟩ t.1 e.1 → t.1.runtime.aimActive = true →
            ∀ aim ∈ t.1.runtime.aims, aim.toggleKey.isSome = true → aim.active = true)
          (calmSteps [keysTurn [.named .t], keysTurn [.f12], keysTurn [.f12]])
          (loop₀, fun _ => 0) : Bool) &&
          returnsWith (fun t => t.1.inputActive) (runAll (countedStep ⟨true, true⟩)
            (calmSteps [keysTurn [.named .t], keysTurn [.f12], keysTurn [.f12]]))
            (loop₀, fun _ => 0))
        (enter ⟨true, true⟩ (.calm 0)) (.new ⟨true, true⟩ true rt₀)) = true)
  obtain ⟨plan, hplan, hnew⟩ := exists_of_launch hlaunch
  obtain ⟨⟨⟩, loop₀, henter, hrun⟩ := exists_of_returnsWith hrun
  simp only [Bool.and_eq_true, decide_eq_true_eq] at hrun
  obtain ⟨hagree, hrun⟩ := hrun
  obtain ⟨⟨⟩, ⟨loop, presses⟩, hrun, hactive⟩ := exists_of_returnsWith hrun
  exact ⟨plan, rt₀, loop₀, loop, presses, hplan, hnew, henter, hrun,
    aims_follow_presses hplan hnew henter hagree hrun hactive⟩

/-- Two mouse aims, on the keys `t` and `y`. -/
def twoAims : ProfileV2 where
  schemaVersion := 2
  name := "two aims"
  packageName := "com.example.aims"
  layers := []
  bindings := ["t", "y"].map fun key =>
    ⟨key, none, none, .mouseMove, .mouseAim ⟨1/2, 1/10, 2/5, 4/5⟩ 1 (some key) (9/10) 0 none none⟩

/-- **A recapture starts an aim that was never toggled**: after a press of `t`, a release and a
capture with F12, the aim on `y` is active. -/
theorem recapture_starts_other_aim : NeverFails Unit ∧ ∃ plan rt₀ loop₀ loop presses,
    RuntimeControlPlan.fromProfileV2 twoAims ⟨1280, 720⟩ = .ok plan ∧
    UnifiedRuntime.new plan () = .ok rt₀ ∧
    enter ⟨true, true⟩ (.calm 0) (.new ⟨true, true⟩ true rt₀) = .ok () loop₀ ∧
    runAll (countedStep ⟨true, true⟩)
      (calmSteps [keysTurn [.named .t], keysTurn [.f12], keysTurn [.f12]]) (loop₀, fun _ => 0) =
        .ok () (loop, presses) ∧
    loop.inputActive = true ∧ presses .y = 0 ∧
    ∃ cell ∈ loop.runtime.cells, ∃ c ∈ cell.aimController,
      c.settings.toggleKey = some "y" ∧ c.isActive = true := by
  obtain ⟨rt₀, hlaunch, hrun⟩ := (Option.any_eq_true _ _).mp (by decide +kernel :
    (launch twoAims ⟨1280, 720⟩ ()).any (fun rt₀ =>
      returnsWith (fun loop₀ =>
          returnsWith (fun t => t.1.inputActive && t.2 .y = 0 && t.1.runtime.cells.any fun cell =>
              cell.aimController.any fun c => c.settings.toggleKey = some "y" && c.isActive)
            (runAll (countedStep ⟨true, true⟩)
              (calmSteps [keysTurn [.named .t], keysTurn [.f12], keysTurn [.f12]]))
            (loop₀, fun _ => 0))
        (enter ⟨true, true⟩ (.calm 0)) (.new ⟨true, true⟩ true rt₀)) = true)
  obtain ⟨plan, hplan, hnew⟩ := exists_of_launch hlaunch
  obtain ⟨⟨⟩, loop₀, henter, hrun⟩ := exists_of_returnsWith hrun
  obtain ⟨⟨⟩, ⟨loop, presses⟩, hrun, hother⟩ := exists_of_returnsWith hrun
  simp only [Bool.and_eq_true, decide_eq_true_eq, List.any_eq_true, Option.any_eq_true] at hother
  obtain ⟨⟨hactive, hpresses⟩, cell, hcell, c, hc, htoggle, hon⟩ := hother
  exact ⟨neverFails_unit, plan, rt₀, loop₀, loop, presses, hplan, hnew, henter, hrun, hactive,
    hpresses, cell, hcell, c, hc, htoggle, hon⟩

end EventLoop

end Wroid
