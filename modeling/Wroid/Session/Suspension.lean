import Wroid.Session.Invariant

/-!
# Suspending while the injector fails

A suspension goes on after a failure: whatever the injector refuses, nothing is held afterwards
and no control and no aim does anything.  Contacts whose release was refused are still down in the
engine, without an owner; the next suspension releases them, once the injector accepts frames.

Nothing here needs an invariant of the runtime: a suspension does this from every state.

## Main definitions

* `MouseAimController.AtRest`, `UnifiedRuntime.Quiet` — nothing is going on.
* `Works` — the injector accepts the frames to come.

## Main results

* `suspend_quiet` — what a suspension does, however the injector behaves.
* `suspend_works` — what it does when the injector works.
* `suspend_quiet_and_retried` — **a suspension always leaves a quiet runtime; if it succeeds no
  contact is down; and once the injector works, suspending again lifts every contact**.
-/

set_option linter.constructorNameAsVariable false

namespace Wroid

open Lib

/-! ### An injector that works -/

/-- From here on the injector accepts every frame. -/
def Works {I : Type} [TouchInjector I] (i : I) : Prop :=
  ∀ frames : List TouchFrame, ∃ i', runAll TouchInjector.inject frames i = .ok () i'

example : Works () := fun frames => by
  induction frames with
  | nil => exact ⟨(), rfl⟩
  | cons frame frames ih => exact ih

theorem Works.inject {I : Type} [TouchInjector I] {i : I} (h : Works i) (frame : TouchFrame) :
    wp (TouchInjector.inject frame) (fun _ i' => Works i') (fun _ _ => False) i := by
  have hstep : ∀ frames, ∃ i', (TouchInjector.inject frame >>= fun _ =>
      runAll TouchInjector.inject frames : EStateM TouchInjectionError I Unit) i = .ok () i' :=
    fun frames => h (frame :: frames)
  unfold wp
  simp only [bind, EStateM.bind] at hstep
  cases hframe : TouchInjector.inject frame i with
  | ok u i' =>
    rw [hframe] at hstep
    exact hstep
  | error e i' =>
    rw [hframe] at hstep
    obtain ⟨_, hfalse⟩ := hstep []
    cases hfalse

/-- The contract of an injector that may have failed before and works now. -/
def Contract.working (I : Type) [TouchInjector I] : Contract I where
  Inv _ i := Works i
  Allowed _ := True
  Failed _ _ := False
  inject_spec _ _ frame h _ _ := h.inject frame

/-! ### The aims -/

namespace MouseAimController

variable {I : Type} [TouchInjector I] {K : Contract I} {eng : TouchEngine I}
  {c : MouseAimController}

/-- The controller does nothing, and remembers nothing of what it did. -/
structure AtRest (c : MouseAimController) : Prop where
  inactive : c.isActive = false
  adsActive : c.adsActive = false
  lastReaffirmAt : c.lastReaffirmAt = none
  carry : c.carryX = 0 ∧ c.carryY = 0

/-- Cancelling a controller puts it to rest; a failure makes it forget its contact at least. -/
theorem cancel_rests (hall : ∀ frame, K.Allowed frame) (hK : K.Holds eng) :
    wp cancel (fun _ t => K.Holds t.1 ∧ t.2.AtRest)
      (fun e t => K.Fails e t.1 ∧ t.2.activeContactId = none) (eng, c) := by
  have hrest : ∀ d : MouseAimController, d.activeContactId = none → d.pendingRecenter = none →
      AtRest { d with adsActive := false, lastReaffirmAt := none, carryX := 0, carryY := 0 } := by
    intro d hactive hpending
    refine ⟨?_, rfl, rfl, rfl, rfl⟩
    simp [isActive, hactive, hpending]
  simp only [cancel, wp_bind, wp_get, wp_update]
  cases c.activeContactId with
  | none => exact ⟨hK, hrest _ rfl rfl⟩
  | some contactId =>
    cases hposition : eng.state.position contactId with
    | none =>
      simp only [hposition]
      exact ⟨hK, hrest _ rfl rfl⟩
    | some position =>
      simp only [hposition, wp_bind, wp_onEngine, wp_pure]
      have hdown : eng.state.position contactId ≠ none := by simp [hposition]
      refine wp_mono (TouchEngine.cancelContact_spec hK hdown fun _ => hall _) ?_ ?_
      · rintro _ e ⟨hK', -⟩
        exact ⟨hK', hrest _ rfl rfl⟩
      · intro error e hfails
        exact ⟨hfails, trivial⟩

/-- A controller without a contact is put to rest without the engine. -/
theorem cancel_forgotten (h : c.activeContactId = none) :
    wp cancel (fun _ t => t.1 = eng ∧ t.2.AtRest) (fun _ _ => False) (eng, c) := by
  simp only [cancel, wp_bind, wp_get, wp_update, h]
  exact ⟨rfl, rfl, rfl, rfl, rfl, rfl⟩

end MouseAimController

namespace ControlCell

variable {I : Type} [TouchInjector I] {K : Contract I} {cell : ControlCell}
  {s : TouchEngine I × Option SessionError}

/-- The aim of the control is at rest, if it has one. -/
def Rested (cell : ControlCell) : Prop := ∀ c ∈ cell.aimController, c.AtRest

/-- **Cancelling the aim of a control puts it to rest, with the second attempt at the latest.** -/
theorem cancelAim_rests (hall : ∀ frame, K.Allowed frame) (hK : K.Holds s.1) :
    wp cancelAim (fun _ t => t.2.Rested ∧
      ((∀ st e, ¬ K.Failed st e) → K.Holds t.1.1 ∧ t.1.2 = s.2)) (fun _ _ => False) (s, cell) := by
  have hrested : ∀ c : MouseAimController, c.AtRest →
      Rested { cell with aimController := some c } := by
    rintro c hrest _ ⟨⟩
    exact hrest
  simp only [cancelAim, wp_bind, wp_get]
  split
  · next c hc =>
    simp only [wp_bind, wp_zoom, wp_attempt]
    refine wp_mono (MouseAimController.cancel_rests hall hK) ?_ ?_
    · rintro _ ⟨e, c'⟩ ⟨hK', hrest⟩
      exact ⟨hrested c' hrest, fun _ => ⟨hK', rfl⟩⟩
    · rintro error ⟨e, c'⟩ ⟨⟨cause, -, hcause⟩, hactive⟩
      simp only [wp_modify, wp_get, Option.getD_some]
      refine wp_mono (MouseAimController.cancel_forgotten hactive) ?_ fun _ _ h => h.elim
      rintro _ ⟨e', c''⟩ ⟨-, hrest⟩
      exact ⟨hrested c'' hrest, fun hnever => absurd hcause (hnever _ _)⟩
  · next hnone =>
    refine ⟨fun c hc => ?_, fun _ => ⟨hK, rfl⟩⟩
    rw [hnone] at hc
    cases hc

end ControlCell

/-! ### The suspension -/

namespace UnifiedRuntime

variable {I : Type} [TouchInjector I]

/-- Nothing is held, and no control and no aim does anything. -/
structure Quiet (rt : UnifiedRuntime I) : Prop where
  held : rt.held = .none
  bindings : ∀ cell ∈ rt.cells, cell.activeBinding = false
  directions : ∀ cell ∈ rt.cells, cell.directions = .neutral
  aims : ∀ cell ∈ rt.cells, cell.Rested

omit [TouchInjector I] in
theorem Quiet.reset {rt : UnifiedRuntime I} {eng : TouchEngine I} {cells : List ControlCell}
    (h : ∀ cell ∈ cells, cell.Rested) :
    Quiet { rt with engine := eng, held := .none, cells := cells.map ControlCell.reset } := by
  refine ⟨rfl, ?_, ?_, ?_⟩ <;> intro cell hcell
  all_goals obtain ⟨cell, hcell', rfl⟩ := List.mem_map.mp hcell
  · rfl
  · rfl
  · exact h cell hcell'

/-- **Whatever the injector refuses, a suspension leaves the runtime quiet**; and if it succeeds
it has lifted every contact. -/
theorem suspend_quiet (rt : UnifiedRuntime I) :
    wp suspend (fun _ rt' => rt'.Quiet ∧ ∀ c, rt'.engine.state.position c = none)
      (fun _ rt' => rt'.Quiet) rt := by
  have hall : ∀ frame, (Contract.unknown I).Allowed frame := fun _ => trivial
  simp only [suspend, wp_bind, wp_zoom, wp_get, wp_pure, wp_attempt, wp_onEngine, wp_modify]
  refine wp_mono (wp_each_inv (fun _ => True) ControlCell.Rested (fun _ _ => False) ?_ trivial) ?_
    fun _ _ h => h.elim
  · intro s cell _
    exact wp_mono (ControlCell.cancelAim_rests (K := .unknown I) hall trivial)
      (fun _ _ h => ⟨trivial, h.1⟩) fun _ _ h => h
  rintro - ⟨⟨eng, failure⟩, cells⟩ ⟨-, hcells⟩
  refine wp_mono (TouchEngine.cancelAll_spec (K := .unknown I) trivial trivial) ?_ ?_
  · rintro _ e ⟨-, hup⟩
    cases failure with
    | none => exact ⟨.reset hcells, hup⟩
    | some error => exact .reset hcells
  · intro error e _
    cases failure with
    | none => exact .reset hcells
    | some error => exact .reset hcells

/-- **An injector that works lets a suspension lift every contact**, whoever it belongs to. -/
theorem suspend_works {rt : UnifiedRuntime I} (h : Works rt.engine.injector) :
    wp suspend (fun _ rt' => ∀ c, rt'.engine.state.position c = none) (fun _ _ => False) rt := by
  have hall : ∀ frame, (Contract.working I).Allowed frame := fun _ => trivial
  have hnever : ∀ st e, ¬ (Contract.working I).Failed st e := fun _ _ h => h
  simp only [suspend, wp_bind, wp_zoom, wp_get, wp_pure, wp_attempt, wp_onEngine, wp_modify]
  refine wp_mono (wp_each_inv
    (fun s : TouchEngine I × Option SessionError => Works s.1.injector ∧ s.2 = none)
    (fun _ => True) (fun _ _ => False) ?_ ⟨h, rfl⟩) ?_ fun _ _ h => h.elim
  · rintro ⟨eng, failure⟩ cell ⟨hworks, rfl⟩
    refine wp_mono (ControlCell.cancelAim_rests (K := .working I) hall hworks) ?_ fun _ _ h => h
    rintro _ t ⟨-, hkept⟩
    exact ⟨hkept hnever, trivial⟩
  rintro - ⟨⟨eng, failure⟩, cells⟩ ⟨⟨hworks, rfl⟩, -⟩
  refine wp_mono (TouchEngine.cancelAll_spec (K := .working I) hworks trivial) ?_ ?_
  · rintro _ e ⟨-, hup⟩
    exact hup
  · rintro error e ⟨cause, -, hcause⟩
    exact hcause.elim

/-- **A suspension leaves nothing held and nothing going on, whatever the injector refuses; if it
succeeds no contact is down; and suspending again with an injector that works lifts every
contact.** -/
theorem suspend_quiet_and_retried (rt : UnifiedRuntime I) :
    (after suspend rt).Quiet ∧
    (∀ rt', suspend rt = .ok () rt' → ∀ c, rt'.engine.state.position c = none) ∧
    ∀ injector : I, Works injector → ∃ rt',
      suspend { after suspend rt with engine := ⟨injector, (after suspend rt).engine.state⟩ } =
        .ok () rt' ∧ rt'.Quiet ∧ ∀ c, rt'.engine.state.position c = none := by
  refine ⟨?_, ?_, ?_⟩
  · refine wp_after (P := fun rt' : UnifiedRuntime I => rt'.Quiet) ?_
    exact wp_mono (suspend_quiet rt) (fun _ _ h => h.1) fun _ _ h => h
  · intro rt' hok
    exact (wp_ok (suspend_quiet rt) hok).2
  · intro injector hworks
    generalize hagain : { after suspend rt with
      engine := ⟨injector, (after suspend rt).engine.state⟩ } = again
    have hinjector : Works again.engine.injector := by rwa [← hagain]
    cases hrun : suspend again with
    | ok u rt' =>
      obtain ⟨hquiet, hup⟩ := wp_ok (suspend_quiet again) hrun
      exact ⟨rt', rfl, hquiet, hup⟩
    | error error rt' => exact (wp_error (suspend_works hinjector) hrun).elim

end UnifiedRuntime

end Wroid
