import Wroid.Session.EventLoop

/-!
# The cursor contact and the input mode

In UI mode the left button puts the contact of the cursor down.  When the mode changes to aim
mode the button's release no longer reaches the cursor, so the contact has to be up by then:
the loop does not lift it.

## Main definitions

* `EventLoop.CursorKept` — in aim mode the contact of the cursor is up.
* `EventLoop.CursorLifted` — what a change from UI to aim mode has to find.

## Main results

* `cursor_up_in_aim_mode` — **runs whose changes of mode find the contact up keep it up**.
* `toggle_keeps_cursor_down` — pressing the aim key while the left button is held does not.
-/

namespace Wroid

open Lib UnifiedRuntime

namespace EventLoop

variable {I : Type} [TouchInjector I] {setup : RuntimeSetup} {layouts : List ControlLayout}
  {options : LoopOptions} {moment : Moment} {loop : EventLoop I} {hinjector : NeverFails I}

/-- The invariant of the runtime, with the contact of the cursor up in aim mode. -/
structure CursorKept (hinjector : NeverFails I) (setup : RuntimeSetup)
    (layouts : List ControlLayout) (loop : EventLoop I) : Prop where
  invariant : Invariant (.ofNeverFails hinjector) setup layouts loop.runtime
  lifted : loop.mode = .aim → loop.runtime.engine.state.position setup.cursorContact = none

/-- The contact of the cursor is up when a step changes UI mode to aim mode. -/
def CursorLifted (options : LoopOptions) (loop : EventLoop I) (e : LoopEvent × Moment) : Prop :=
  e.1 = .syncMode → loop.inputActive = true → loop.mode = .ui →
    desiredMode options loop.runtime = .aim →
      loop.runtime.engine.state.isActive loop.runtime.setup.cursorContact = false

instance (options : LoopOptions) (loop : EventLoop I) (e : LoopEvent × Moment) :
    Decidable (CursorLifted options loop e) := by
  unfold CursorLifted
  infer_instance

/-- What a call on the runtime that leaves the cursor alone does. -/
structure CursorAlone (hinjector : NeverFails I) (setup : RuntimeSetup)
    (layouts : List ControlLayout) (rt rt' : UnifiedRuntime I) : Prop where
  invariant : Invariant (.ofNeverFails hinjector) setup layouts rt'
  place : rt'.engine.state.position setup.cursorContact =
    rt.engine.state.position setup.cursorContact

theorem CursorAlone.of_stepped {rt rt' : UnifiedRuntime I} {held : HeldInputs}
    (hcfg : Configured (.ofNeverFails hinjector) setup layouts)
    (h : Stepped (.ofNeverFails hinjector) setup layouts rt held rt') :
    CursorAlone hinjector setup layouts rt rt' :=
  ⟨h.invariant, h.frame _ hcfg.distinct.cursor⟩

/-- A call that leaves the cursor alone keeps the loop as it should be. -/
theorem CursorKept.of_alone {loop' : EventLoop I} (h : CursorKept hinjector setup layouts loop)
    (halone : CursorAlone hinjector setup layouts loop.runtime loop'.runtime)
    (hmode : loop'.mode = loop.mode) : CursorKept hinjector setup layouts loop' :=
  ⟨halone.invariant, fun haim => halone.place.trans (h.lifted (hmode ▸ haim))⟩

section Steps

variable (hcfg : Configured (.ofNeverFails hinjector) setup layouts)
include hcfg

theorem setAimEnabled_releaseMouseButtons_alone {rt : UnifiedRuntime I} (now : ℕ)
    (h : Invariant (.ofNeverFails hinjector) setup layouts rt) :
    wp (do
        UnifiedRuntime.setAimEnabled false now
        UnifiedRuntime.releaseMouseButtons now)
      (fun _ rt' => CursorAlone hinjector setup layouts rt rt') (fun _ _ => True) rt := by
  rw [wp_bind]
  refine wp_mono (setAimEnabled_spec false now hcfg h) ?_ fun _ _ _ => trivial
  rintro - rt₁ h₁
  refine wp_mono (releaseMouseButtons_spec now hcfg h₁.invariant) ?_ fun _ _ _ => trivial
  exact fun _ rt₂ h₂ => .of_stepped hcfg (h₁.trans h₂)

/-- Entering a mode leaves the cursor alone. -/
theorem applyInputMode_alone {mode : InputMode} {reactivate : Bool} {Q : Unit → EventLoop I → Prop}
    (h : Invariant (.ofNeverFails hinjector) setup layouts loop.runtime)
    (hQ : ∀ rt, CursorAlone hinjector setup layouts loop.runtime rt →
      Q () { loop with runtime := rt }) :
    wp (applyInputMode options moment mode reactivate) Q (fun _ _ => True) loop :=
  applyInputMode_spec
    (fun _ => wp_mono (restoreAim_spec reactivate moment.now hcfg h)
      (fun _ _ hs => CursorAlone.of_stepped hcfg hs) fun _ _ _ => trivial)
    (fun _ => setAimEnabled_releaseMouseButtons_alone hcfg moment.now h) hQ

theorem release_cursorKept (h : Invariant (.ofNeverFails hinjector) setup layouts loop.runtime) :
    wp (release options moment) (fun _ loop' => CursorKept hinjector setup layouts loop')
      (fun _ _ => True) loop := by
  simp only [release, releaseInputToOs, wp_bind, wp_modify, wp_onRuntime]
  refine wp_device (wp_device (wp_overlayRequest ?_))
  refine wp_mono (suspend_spec (fun _ _ => id) (fun _ _ => trivial) hcfg h) ?_ fun _ _ _ => trivial
  intro _ rt hrt
  obtain ⟨hinv, -, hup⟩ := hrt
  exact ⟨hinv, fun _ => hup _⟩

theorem capture_cursorKept (h : Invariant (.ofNeverFails hinjector) setup layouts loop.runtime)
    {Q : Unit → EventLoop I → Prop}
    (hQ : ∀ rt, CursorAlone hinjector setup layouts loop.runtime rt →
      Q () { loop with runtime := rt, inputActive := true }) :
    wp (capture options moment) Q (fun _ _ => True) loop := by
  simp only [capture, wp_bind, wp_get]
  exact wp_device (applyInputMode_alone hcfg h fun rt hrt => hQ rt hrt)

theorem focusChanged_cursorKept (focused : Bool) (h : CursorKept hinjector setup layouts loop) :
    wp (focusChanged options moment focused)
      (fun _ loop' => CursorKept hinjector setup layouts loop') (fun _ _ => True) loop := by
  have hsame : ∀ loop' : EventLoop I, loop'.runtime = loop.runtime → loop'.mode = loop.mode →
      CursorKept hinjector setup layouts loop' := fun loop' hrt hmode =>
    ⟨hrt ▸ h.invariant, fun haim => hrt ▸ h.lifted (hmode ▸ haim)⟩
  simp only [focusChanged, wp_bind, wp_get, wp_ite, wp_set, wp_pure]
  split
  · split
    · split
      · refine capture_cursorKept hcfg ?_ fun rt hrt => ?_
        · exact h.invariant
        · exact h.of_alone hrt rfl
      · exact hsame _ rfl rfl
    · split
      · exact release_cursorKept hcfg h.invariant
      · exact hsame _ rfl rfl
  · exact hsame _ rfl rfl

theorem focusUnavailable_cursorKept (h : CursorKept hinjector setup layouts loop) :
    wp (focusUnavailable options moment)
      (fun _ loop' => CursorKept hinjector setup layouts loop') (fun _ _ => True) loop := by
  simp only [focusUnavailable, wp_bind, wp_get, wp_ite, wp_set, wp_pure]
  split
  · split
    · exact release_cursorKept hcfg h.invariant
    · exact ⟨h.invariant, h.lifted⟩
  · exact h

theorem releaseHotkey_cursorKept (h : CursorKept hinjector setup layouts loop) :
    wp (releaseHotkey options moment)
      (fun _ loop' => CursorKept hinjector setup layouts loop') (fun _ _ => True) loop := by
  simp only [releaseHotkey, wp_bind, wp_modify, wp_get, wp_ite, wp_set, wp_pure]
  split
  · exact release_cursorKept hcfg h.invariant
  · split
    · refine capture_cursorKept hcfg ?_ fun rt hrt => ?_
      · exact h.invariant
      · exact h.of_alone hrt rfl
    · exact ⟨h.invariant, h.lifted⟩

theorem key_cursorKept (event : HostKeyEvent) (h : CursorKept hinjector setup layouts loop) :
    wp (key options moment event)
      (fun _ loop' => CursorKept hinjector setup layouts loop') (fun _ _ => True) loop := by
  simp only [key, wp_bind, wp_get, wp_ite, wp_set, wp_pure, wp_throw, wp_onRuntime]
  split
  · split
    · exact releaseHotkey_cursorKept hcfg h
    · exact h
  · split
    · split
      · trivial
      split
      · trivial
      refine wp_mono (handleKeyboard_spec event moment.now hcfg (fun _ _ _ _ _ _ _ => trivial)
        h.invariant) ?_ fun _ _ _ => trivial
      exact fun _ rt hrt => h.of_alone (.of_stepped hcfg hrt) rfl
    · exact h

/-- **A change of mode** keeps the contact up, if it was. -/
theorem syncMode_cursorKept (hlift : CursorLifted options loop (.syncMode, moment))
    (h : CursorKept hinjector setup layouts loop) :
    wp (syncMode options moment)
      (fun _ loop' => CursorKept hinjector setup layouts loop') (fun _ _ => True) loop := by
  simp only [syncMode, wp_bind, wp_get, wp_ite, wp_modify, wp_pure]
  split
  · next hchange =>
    simp only [Bool.and_eq_true, decide_eq_true_eq] at hchange
    refine applyInputMode_alone hcfg h.invariant fun rt hrt => ⟨hrt.invariant, fun haim => ?_⟩
    have haim : desiredMode options loop.runtime = .aim := haim
    have hui : loop.mode = .ui := by
      cases hmode : loop.mode with
      | aim => exact absurd (haim.trans hmode.symm) hchange.2
      | ui => rfl
    have hup := hlift rfl hchange.1 hui haim
    rw [TouchState.isActive_eq, h.invariant.coherent.setup_eq] at hup
    exact hrt.place.trans (by simpa using hup)
  · exact h

theorem driveCursor_cursorKept (event : MouseEvent) (hui : loop.mode = .ui)
    (h : CursorKept hinjector setup layouts loop) :
    wp (driveCursor event)
      (fun _ loop' => CursorKept hinjector setup layouts loop') (fun _ _ => True) loop := by
  have hmode : ∀ rt, Invariant (.ofNeverFails hinjector) setup layouts rt → ∀ loop' : EventLoop I,
      loop'.runtime = rt → loop'.mode = .ui → CursorKept hinjector setup layouts loop' :=
    fun rt hrt loop' hruntime hui => ⟨hruntime ▸ hrt, fun haim => by cases hui.symm.trans haim⟩
  unfold driveCursor
  split <;> simp only [wp_bind, wp_modify, wp_get, wp_ite, wp_onRuntime, wp_pure]
  · split
    · exact wp_mono (cursorMove_spec _ hcfg (fun _ => trivial) h.invariant)
        (fun _ rt hrt => hmode rt hrt.choose_spec.1.invariant _ rfl hui) fun _ _ _ => trivial
    · exact hmode _ h.invariant _ rfl hui
  · exact wp_mono (cursorDown_spec _ hcfg (fun _ => trivial) h.invariant)
      (fun _ rt hrt => hmode rt hrt.invariant _ rfl hui) fun _ _ _ => trivial
  · exact wp_mono (cursorUp_spec hcfg (fun _ _ => trivial) h.invariant)
      (fun _ rt hrt => hmode rt hrt.invariant _ rfl hui) fun _ _ _ => trivial
  · exact h
  · exact h

theorem mouse_cursorKept (event : MouseEvent) (h : CursorKept hinjector setup layouts loop) :
    wp (mouse moment event)
      (fun _ loop' => CursorKept hinjector setup layouts loop') (fun _ _ => True) loop := by
  simp only [mouse, wp_bind, wp_get, wp_ite, wp_pure]
  split
  · split
    · simp only [wp_bind, wp_onRuntime, wp_pure]
      refine wp_mono (handleMouse_spec event moment.now hcfg (fun _ _ _ _ _ _ _ => trivial)
        h.invariant) ?_ fun _ _ _ => trivial
      exact fun _ rt hrt => h.of_alone (.of_stepped hcfg hrt) rfl
    · next hui => exact driveCursor_cursorKept hcfg event hui h
  · exact h

theorem cursor_cursorKept (event : CursorEvent) (h : CursorKept hinjector setup layouts loop) :
    wp (cursor event)
      (fun _ loop' => CursorKept hinjector setup layouts loop') (fun _ _ => True) loop := by
  simp only [cursor, wp_bind, wp_get, wp_ite, wp_pure]
  split
  · next hui =>
    simp only [Bool.and_eq_true, decide_eq_true_eq] at hui
    have hmode : ∀ rt, Invariant (.ofNeverFails hinjector) setup layouts rt →
        CursorKept hinjector setup layouts { loop with runtime := rt } := fun rt hrt =>
      ⟨hrt, fun haim => by cases hui.2.symm.trans haim⟩
    split
    · split
      · rw [wp_onRuntime]
        exact wp_mono (cursorMove_spec _ hcfg (fun _ => trivial) h.invariant)
          (fun _ rt hrt => hmode rt hrt.choose_spec.1.invariant) fun _ _ _ => trivial
      · exact h
    · split
      · rw [wp_onRuntime, wp_ite]
        split
        · exact wp_mono (cursorDown_spec _ hcfg (fun _ => trivial) h.invariant)
            (fun _ rt hrt => hmode rt hrt.invariant) fun _ _ _ => trivial
        · exact wp_mono (cursorUp_spec hcfg (fun _ _ => trivial) h.invariant)
            (fun _ rt hrt => hmode rt hrt.invariant) fun _ _ _ => trivial
      · exact h
  · exact h

/-- **A step that meets the condition** keeps the contact of the cursor up in aim mode. -/
theorem step_cursorKept (e : LoopEvent × Moment) (hlift : CursorLifted options loop e)
    (h : CursorKept hinjector setup layouts loop) :
    wp (step options e) (fun _ loop' => CursorKept hinjector setup layouts loop')
      (fun _ _ => True) loop := by
  obtain ⟨event, moment⟩ := e
  cases event with
  | focus event =>
    cases event with
    | changed focused =>
      simp only [step, wp_ite, wp_pure]
      split
      · exact focusChanged_cursorKept hcfg focused h
      · exact h
    | unavailable =>
      simp only [step, wp_ite, wp_pure]
      split
      · exact focusUnavailable_cursorKept hcfg h
      · exact h
  | focusFallback elapsed =>
    simp only [step, focusFallback, wp_ite, wp_modify, wp_pure]
    split
    · split <;> exact ⟨h.invariant, h.lifted⟩
    · exact h
  | key event => exact key_cursorKept hcfg event h
  | syncMode => exact syncMode_cursorKept hcfg hlift h
  | mouse event => exact mouse_cursorKept hcfg event h
  | cursor event => exact cursor_cursorKept hcfg event h
  | readersFailed message => trivial
  | tick =>
    simp only [step, tick, wp_bind, wp_get, wp_ite, wp_onRuntime, wp_pure]
    split
    · exact wp_mono (tick_spec moment.now hcfg h.invariant)
        (fun _ rt hrt => h.of_alone (.of_stepped hcfg hrt) rfl) fun _ _ _ => trivial
    · exact h

theorem enter_cursorKept (h : CursorKept hinjector setup layouts loop) :
    wp (enter options moment) (fun _ loop' => CursorKept hinjector setup layouts loop')
      (fun _ _ => True) loop := by
  simp only [enter, wp_bind, wp_get, wp_ite, wp_onRuntime, wp_pure]
  split
  · refine wp_mono (start_spec moment.now hcfg h.invariant) ?_ fun _ _ _ => trivial
    rintro - rt hrt
    have hstarted : CursorKept hinjector setup layouts { loop with runtime := rt } :=
      h.of_alone (.of_stepped hcfg hrt) rfl
    split
    · exact applyInputMode_alone hcfg hstarted.invariant fun rt' hrt' => hstarted.of_alone hrt' rfl
    · exact hstarted
  · exact h

end Steps

variable {plan : RuntimeControlPlan} {injector : I} {rt₀ : UnifiedRuntime I} {loop₀ : EventLoop I}

/-- **In aim mode the contact of the cursor is up**, over an injector that accepts every frame
and with distinct contact identifiers, in every run whose changes from UI to aim mode find it
up. -/
theorem cursor_up_in_aim_mode (hinjector : NeverFails I)
    (hnew : UnifiedRuntime.new plan injector = .ok rt₀) (hids : rt₀.contactIds.Nodup)
    {focused : Bool} (henter : enter options moment (.new options focused rt₀) = .ok () loop₀)
    {steps : List (LoopEvent × Moment)}
    (hlift : AllSteps (step options) (CursorLifted options) steps loop₀)
    (hrun : runAll (step options) steps loop₀ = .ok () loop) (haim : loop.mode = .aim) :
    loop.runtime.engine.state.isActive loop.runtime.setup.cursorContact = false := by
  have hcfg : Configured (.ofNeverFails hinjector) rt₀.setup rt₀.layouts :=
    ⟨distinct_of_nodup hids, fun _ _ _ => ⟨fun _ _ _ _ _ => trivial, fun _ _ _ _ _ _ _ _ _ => trivial⟩⟩
  have hbuilt := new_built hnew
  have hfirst : CursorKept hinjector rt₀.setup rt₀.layouts (.new options focused rt₀) := by
    refine ⟨new_invariant hbuilt trivial, fun _ => ?_⟩
    change rt₀.engine.state.position _ = none
    simp [hbuilt.engine, TouchEngine.new]
  have hentered := wp_ok (enter_cursorKept hcfg hfirst) henter
  have hkept := wp_ok (wp_runAll_of_allSteps (fun e loop hlift h => step_cursorKept hcfg e hlift h)
    hlift hentered) hrun
  rw [TouchState.isActive_eq, hkept.invariant.coherent.setup_eq, hkept.lifted haim]
  rfl

/-- A mouse aim that the key `t` toggles, and a fire button. -/
def aimer : ProfileV2 where
  schemaVersion := 2
  name := "aimer"
  packageName := "com.example.aimer"
  layers := []
  bindings :=
    [⟨"look", none, none, .mouseMove,
        .mouseAim ⟨1/2, 1/10, 2/5, 4/5⟩ 1 (some "t") (9/10) 0 none none⟩,
      ⟨"fire", none, none, .mouseButton "left", .hold ⟨4/5, 1/2⟩⟩]

/-- The left button clicks in UI mode before the aim key is pressed. -/
theorem aimer_cursor_up : ∃ plan rt₀ loop₀ loop, UnifiedRuntime.new plan () = .ok rt₀ ∧
    enter ⟨true, true⟩ (.calm 0) (.new ⟨true, true⟩ true rt₀) = .ok () loop₀ ∧
    runAll (step ⟨true, true⟩) (calmSteps
      [⟨[], false, .mouse [.button .left .pressed, .button .left .released]⟩, keysTurn [.named .t]])
      loop₀ = .ok () loop ∧
    loop.mode = .aim ∧
    loop.runtime.engine.state.isActive loop.runtime.setup.cursorContact = false := by
  obtain ⟨rt₀, hlaunch, hrun⟩ := (Option.any_eq_true _ _).mp (by decide +kernel :
    (launch aimer ⟨1280, 720⟩ ()).any (fun rt₀ => rt₀.contactIds.Nodup &&
      returnsWith (fun loop₀ =>
        AllSteps (step ⟨true, true⟩) (CursorLifted ⟨true, true⟩) (calmSteps
            [⟨[], false, .mouse [.button .left .pressed, .button .left .released]⟩,
              keysTurn [.named .t]]) loop₀ &&
          returnsWith (fun loop => loop.mode = .aim) (runAll (step ⟨true, true⟩) (calmSteps
            [⟨[], false, .mouse [.button .left .pressed, .button .left .released]⟩,
              keysTurn [.named .t]])) loop₀)
        (enter ⟨true, true⟩ (.calm 0)) (.new ⟨true, true⟩ true rt₀)) = true)
  obtain ⟨plan, -, hnew⟩ := exists_of_launch hlaunch
  simp only [Bool.and_eq_true, decide_eq_true_eq] at hrun
  obtain ⟨hids, hrun⟩ := hrun
  obtain ⟨⟨⟩, loop₀, henter, hrun⟩ := exists_of_returnsWith hrun
  simp only [Bool.and_eq_true, decide_eq_true_eq] at hrun
  obtain ⟨hlift, hrun⟩ := hrun
  obtain ⟨⟨⟩, loop, hrun, haim⟩ := exists_of_returnsWith hrun
  have haim : loop.mode = .aim := of_decide_eq_true haim
  exact ⟨plan, rt₀, loop₀, loop, hnew, henter, hrun, haim,
    cursor_up_in_aim_mode neverFails_unit hnew hids henter hlift hrun haim⟩

/-- **The aim key leaves the cursor pressed**: it is pressed while the left button is held, and
the loop is in aim mode with the contact of the cursor down. -/
theorem toggle_keeps_cursor_down : NeverFails Unit ∧ ∃ plan rt₀ loop,
    RuntimeControlPlan.fromProfileV2 aimer ⟨1280, 720⟩ = .ok plan ∧
    UnifiedRuntime.new plan () = .ok rt₀ ∧ rt₀.contactIds.Nodup ∧
    runEventLoop ⟨true, true⟩ (.calm 0)
      (calmSteps [⟨[], false, .mouse [.button .left .pressed]⟩, keysTurn [.named .t]])
      (.new ⟨true, true⟩ true rt₀) = .ok () loop ∧
    loop.mode = .aim ∧
    loop.runtime.engine.state.isActive loop.runtime.setup.cursorContact = true := by
  obtain ⟨rt₀, hlaunch, hrun⟩ := (Option.any_eq_true _ _).mp (by decide +kernel :
    (launch aimer ⟨1280, 720⟩ ()).any (fun rt₀ => rt₀.contactIds.Nodup &&
      returnsWith (fun loop => loop.mode = .aim ∧
          loop.runtime.engine.state.isActive loop.runtime.setup.cursorContact = true)
        (runEventLoop ⟨true, true⟩ (.calm 0)
          (calmSteps [⟨[], false, .mouse [.button .left .pressed]⟩, keysTurn [.named .t]]))
        (.new ⟨true, true⟩ true rt₀)) = true)
  obtain ⟨plan, hplan, hnew⟩ := exists_of_launch hlaunch
  simp only [Bool.and_eq_true, decide_eq_true_eq] at hrun
  obtain ⟨hids, hrun⟩ := hrun
  obtain ⟨⟨⟩, loop, hrun, hdown⟩ := exists_of_returnsWith hrun
  obtain ⟨haim, hdown⟩ := of_decide_eq_true hdown
  exact ⟨neverFails_unit, plan, rt₀, loop, hplan, hnew, hids, hrun, haim, hdown⟩

end EventLoop

end Wroid
