import Wroid.Desktop.Restoration

/-!
# Somebody restores the session

While the launcher lives, the ticket is its own: the watchdog only looks.  Once the watchdog has
seen that the launcher is gone, nobody else touches the ticket, so that it is there until the
watchdog removes it.

## Main definitions

* `WasRunning`, `Armed`, `RestoredSince`, `Held` and the others — what a process has done.
* `Role` — a launcher, a launcher that was killed, or a watchdog.
* `Invariant` — what the roles have to do with the ticket.

## Main results

* `restoration_kept` — every operation keeps the invariant.
* `session_is_restored` — **a session that was running is started again, or the ticket is there**;
  the ticket is only removed for a reason, and the watchdog acts for a launcher that is gone.
-/

namespace Wroid.Restoration

open Lib

variable {T : Type}

/-! ### What has been done

The deeds of a process are listed with the newest first. -/

abbrev DesktopDeed (T : Type) := Sigma (DesktopOp.Answer T)

/-- The session was running. -/
def WasRunning (deeds : List (DesktopDeed T)) : Prop := ⟨.isRunning, .ok true⟩ ∈ deeds

/-- The watchdog is armed. -/
def Armed (deeds : List (DesktopDeed T)) : Prop := ⟨.spawnWatchdog, .ok ()⟩ ∈ deeds

def Stopped (deeds : List (DesktopDeed T)) : Prop := ∃ answer, ⟨.stop, answer⟩ ∈ deeds

/-- The session was started after it was stopped the last time. -/
def RestoredSince : List (DesktopDeed T) → Prop
  | [] => False
  | ⟨.start, .ok _⟩ :: _ => True
  | ⟨.stop, _⟩ :: _ => False
  | _ :: deeds => RestoredSince deeds

/-- The ticket was created, and no attempt was made to remove it. -/
def Held : List (DesktopDeed T) → Prop
  | [] => False
  | ⟨.createTicket, .ok _⟩ :: _ => True
  | ⟨.removeTicket, _⟩ :: _ => False
  | _ :: deeds => Held deeds

/-- The launcher was seen to be gone. -/
def SeenDead (deeds : List (DesktopDeed T)) : Prop := ⟨.parentExists, false⟩ ∈ deeds

/-- The ticket was seen to be gone. -/
def SeenGone (deeds : List (DesktopDeed T)) : Prop :=
  ⟨.ticketExists, false⟩ ∈ deeds ∨ ⟨.readTicket, .ok none⟩ ∈ deeds

/-- The session was started. -/
def Started (deeds : List (DesktopDeed T)) : Prop := ⟨.start, .ok ()⟩ ∈ deeds

/-- The session was seen to be running, when the ticket said that it was being restored. -/
def ObservedRestored (deeds : List (DesktopDeed T)) : Prop :=
  ∃ later status text earlier, deeds = later ++
    ⟨.status, .ok status⟩ :: ⟨.readTicket, .ok (some text)⟩ :: earlier ∧
      sessionIsRunning status = true ∧ trim rustBlank text = "restoring"

/-- The ticket was seen after the launcher was gone, and has not been removed. -/
def Sure : List (DesktopDeed T) → Prop
  | [] => False
  | ⟨.removeTicket, _⟩ :: _ => False
  | ⟨.ticketExists, true⟩ :: deeds => SeenDead deeds ∨ Sure deeds
  | _ :: deeds => Sure deeds

/-! ### Roles -/

/-- A watchdog that was killed stays what it was; a launcher that was killed is `dead`. -/
inductive Role (T : Type)
  | launcher (deeds : List (DesktopDeed T))
  | watchdog (deeds : List (DesktopDeed T))
  | dead

/-- What a process may do, after what it has done. -/
def Role.Allows : Role T → DesktopOp → Prop
  | .launcher _, .isRunning | .launcher _, .game | .launcher _, .writeTicket _
  | .launcher _, .truncateTicket | .launcher _, .currentExe => True
  | .launcher deeds, .createTicket => ¬ Armed deeds
  | .launcher deeds, .spawnWatchdog => ¬ Armed deeds ∧ Held deeds ∧ WasRunning deeds
  | .launcher deeds, .removeTicket => RestoredSince deeds ∨ ¬ Armed deeds ∧ ¬ Stopped deeds
  | .launcher deeds, .stop => Armed deeds → Held deeds
  | .launcher deeds, .start => WasRunning deeds
  | .watchdog _, .ticketExists | .watchdog _, .parentExists | .watchdog _, .readTicket
  | .watchdog _, .status | .watchdog _, .stall => True
  | .watchdog deeds, .start => SeenDead deeds ∧ ¬ SeenGone deeds
  | .watchdog deeds, .removeTicket => SeenDead deeds ∧ (Started deeds ∨ ObservedRestored deeds)
  | _, _ => False

def discipline (T : Type) :
    Discipline DesktopTask DesktopOp (DesktopOp.Answer T) (Role T) where
  Plays
    | .launcher, .launcher _ | .launcher, .dead | .watchdog, .watchdog _ => True
    | _, _ => False
  Rests
    | .launcher, .launcher _ => False
    | _, _ => True
  Allows _ := Role.Allows
  Turns
    | .launcher deeds, op, answer, r' => r' = .launcher (⟨op, answer⟩ :: deeds)
    | .watchdog deeds, op, answer, r' => r' = .watchdog (⟨op, answer⟩ :: deeds) ∧
      (Sure deeds → ¬ SeenGone [⟨op, answer⟩]) ∧
        (SeenGone deeds → (⟨op, answer⟩ : DesktopDeed T) ≠ ⟨.ticketExists, true⟩)
    | .dead, _, _, _ => False

/-- What a process has done when it returns. -/
def Returns (kind : DesktopTask) (r : Role T) (result : DesktopResult T) : Prop :=
  match kind, r, result with
  | .launcher, .launcher deeds, .launched (.ok value) => ⟨.stop, .ok ()⟩ ∈ deeds ∧
    ⟨.game, .ok value⟩ ∈ deeds ∧ (WasRunning deeds → RestoredSince deeds) ∧
      (Armed deeds → ∃ removed, ⟨.removeTicket, .ok removed⟩ ∈ deeds)
  | .watchdog, .watchdog deeds, .watched (.ok _) =>
    SeenGone deeds ∨ Started deeds ∨ ObservedRestored deeds
  | .launcher, .launcher _, .launched (.error _) | .watchdog, .watchdog _, .watched (.error _) => True
  | _, _, _ => False

section Texts

variable {ticketPath : String} {deeds : List (DesktopDeed T)}

/-- An operation of the launcher. -/
theorem launcher_call {α : Type} {Q : Role T → α → Prop} {op : DesktopOp}
    {f : op.Answer T → DesktopProgram T α} (hallows : (Role.launcher deeds).Allows op)
    (hnext : ∀ answer, Follows (discipline T) .launcher Q (f answer)
      (.launcher (⟨op, answer⟩ :: deeds))) :
    Follows (discipline T) .launcher Q (op.call >>= f) (.launcher deeds) :=
  .call hallows fun answer r' hr' => by
    obtain rfl : r' = .launcher (⟨op, answer⟩ :: deeds) := hr'
    exact hnext answer

/-- An operation of the watchdog. -/
theorem watchdog_call {α : Type} {Q : Role T → α → Prop} {op : DesktopOp}
    {f : op.Answer T → DesktopProgram T α} (hallows : (Role.watchdog deeds).Allows op)
    (hnext : ∀ answer, (Sure deeds → ¬ SeenGone (T := T) [⟨op, answer⟩]) →
      (SeenGone deeds → (⟨op, answer⟩ : DesktopDeed T) ≠ ⟨.ticketExists, true⟩) →
        Follows (discipline T) .watchdog Q (f answer) (.watchdog (⟨op, answer⟩ :: deeds))) :
    Follows (discipline T) .watchdog Q (op.call >>= f) (.watchdog deeds) :=
  .call hallows fun answer r' hr' => by
    obtain ⟨rfl, hsure, hgone⟩ := hr'
    exact hnext answer hsure hgone

/-- The launcher has gone on from `deeds` to `deeds'`; it has not asked again whether the session
was running, and not started another watchdog. -/
structure GoesOn (deeds deeds' : List (DesktopDeed T)) : Prop where
  keeps : deeds ⊆ deeds'
  running : WasRunning deeds' → WasRunning deeds
  armed : Armed deeds' → Armed deeds

theorem GoesOn.refl : GoesOn deeds deeds := ⟨List.Subset.refl _, id, id⟩

/-- One more deed of another kind. -/
theorem GoesOn.cons {deeds' : List (DesktopDeed T)} (h : GoesOn deeds deeds') (deed : DesktopDeed T)
    (hrunning : deed.1 ≠ .isRunning) (harmed : deed.1 ≠ .spawnWatchdog) :
    GoesOn deeds (deed :: deeds') where
  keeps := fun d hd => List.mem_cons_of_mem _ (h.keeps hd)
  running hrun := by
    rcases List.mem_cons.mp hrun with rfl | hrun
    · exact absurd rfl hrunning
    · exact h.running hrun
  armed harm := by
    rcases List.mem_cons.mp harm with rfl | harm
    · exact absurd rfl harmed
    · exact h.armed harm

/-- The launcher is about to arm a watchdog. -/
structure Early (deeds : List (DesktopDeed T)) : Prop where
  running : WasRunning deeds
  unarmed : ¬ Armed deeds
  unstopped : ¬ Stopped deeds

theorem Early.cons (h : Early deeds) (deed : DesktopDeed T) (harmed : deed ≠ ⟨.spawnWatchdog, .ok ()⟩)
    (hstopped : deed.1 ≠ .stop) : Early (deed :: deeds) where
  running := List.mem_cons_of_mem _ h.running
  unarmed harm := by
    rcases List.mem_cons.mp harm with heq | harm
    · exact harmed heq.symm
    · exact h.unarmed harm
  unstopped := by
    rintro ⟨answer, hstop⟩
    rcases List.mem_cons.mp hstop with rfl | hstop
    · exact hstopped rfl
    · exact h.unstopped ⟨answer, hstop⟩

/-- A watchdog that could be armed holds the ticket. -/
theorem arm_follows (h : Early deeds) : Follows (discipline T) .launcher
    (fun r result => match result with
      | .ok _ => ∃ deeds', r = .launcher deeds' ∧ WasRunning deeds' ∧ Armed deeds' ∧ Held deeds'
      | .error _ => ∃ deeds', r = .launcher deeds') (RestoreWatchdog.arm ticketPath) (.launcher deeds) := by
  refine launcher_call h.unarmed fun created => ?_
  cases created with
  | error error => exact follows_pure.mpr ⟨_, rfl⟩
  | ok u =>
    have h₁ := h.cons ⟨.createTicket, .ok u⟩ nofun nofun
    refine launcher_call trivial fun written => ?_
    have h₂ := h₁.cons ⟨.writeTicket "armed\n", written⟩ nofun nofun
    cases written with
    | error error =>
      exact launcher_call (.inr ⟨h₂.unarmed, h₂.unstopped⟩) fun _ => follows_pure.mpr ⟨_, rfl⟩
    | ok u =>
      refine launcher_call trivial fun found => ?_
      have h₃ := h₂.cons ⟨.currentExe, found⟩ nofun nofun
      cases found with
      | error error => exact follows_pure.mpr ⟨_, rfl⟩
      | ok u =>
        refine launcher_call ⟨h₃.unarmed, trivial, h₃.running⟩ fun spawned => ?_
        cases spawned with
        | error error =>
          have h₄ := h₃.cons ⟨.spawnWatchdog, .error error⟩ nofun nofun
          exact launcher_call (.inr ⟨h₄.unarmed, h₄.unstopped⟩) fun _ => follows_pure.mpr ⟨_, rfl⟩
        | ok u =>
          exact follows_pure.mpr ⟨_, rfl, List.mem_cons_of_mem _ h₃.running, List.mem_cons_self, trivial⟩

theorem markWatchdogRestoring_follows (watchdog : Bool) : Follows (discipline T) .launcher
    (fun r _ => ∃ deeds', r = .launcher deeds' ∧ GoesOn deeds deeds')
    (markWatchdogRestoring ticketPath watchdog) (.launcher deeds) := by
  refine .ite (fun _ => .bind (launcher_call trivial fun emptied => ?_)) fun _ =>
    follows_pure.mpr ⟨deeds, rfl, .refl⟩
  have h₁ := (GoesOn.refl : GoesOn deeds deeds).cons ⟨.truncateTicket, emptied⟩ nofun nofun
  cases emptied with
  | error error => exact follows_pure.mpr (follows_pure.mpr ⟨_, rfl, h₁⟩)
  | ok u =>
    refine launcher_call trivial fun written => ?_
    have h₂ := h₁.cons ⟨.writeTicket "restoring\n", written⟩ nofun nofun
    cases written with
    | error error => exact follows_pure.mpr (follows_pure.mpr ⟨_, rfl, h₂⟩)
    | ok u => exact follows_pure.mpr (follows_pure.mpr ⟨_, rfl, h₂⟩)

/-- A session that is to be restored has been, when this returns. -/
theorem restoreIf_follows {restore watchdog : Bool} (hrestore : restore = true → WasRunning deeds) :
    Follows (discipline T) .launcher (fun r result => ∃ deeds', r = .launcher deeds' ∧
      GoesOn deeds deeds' ∧ (result.toBool = true → restore = true → RestoredSince deeds'))
      (restoreIf ticketPath restore watchdog) (.launcher deeds) := by
  refine .ite (fun hrestores => ?_) fun hnot =>
    follows_pure.mpr ⟨deeds, rfl, .refl, fun _ h => absurd h hnot⟩
  refine .bind ((markWatchdogRestoring_follows watchdog).mono fun r _ hr => ?_)
  obtain ⟨deeds', rfl, hgoes⟩ := hr
  change Follows _ _ _ (DesktopOp.start.call >>= pure) _
  refine launcher_call (hgoes.keeps (hrestore hrestores)) fun started => follows_pure.mpr ?_
  refine ⟨_, rfl, hgoes.cons ⟨.start, started⟩ nofun nofun, fun hok _ => ?_⟩
  cases started with
  | error error => cases hok
  | ok u => trivial

/-- Disarming takes a session that is restored. -/
theorem disarmIf_follows {watchdog : Bool} (hrestored : watchdog = true → RestoredSince deeds) :
    Follows (discipline T) .launcher (fun r result => ∃ deeds', r = .launcher deeds' ∧
      GoesOn deeds deeds' ∧ (RestoredSince deeds → RestoredSince deeds') ∧
        (result.toBool = true → watchdog = true → ∃ removed, ⟨.removeTicket, .ok removed⟩ ∈ deeds'))
      (disarmIf ticketPath watchdog) (.launcher deeds) := by
  refine .ite (fun hwatchdog => launcher_call (.inl (hrestored hwatchdog)) fun removed => ?_)
    fun hnot => follows_pure.mpr ⟨deeds, rfl, .refl, id, fun _ h => absurd h hnot⟩
  have hgoes := (GoesOn.refl : GoesOn deeds deeds).cons ⟨.removeTicket, removed⟩ nofun nofun
  cases removed with
  | error error => exact follows_pure.mpr ⟨_, rfl, hgoes, id, fun hok => by cases hok⟩
  | ok removed =>
    exact follows_pure.mpr ⟨_, rfl, hgoes, id, fun _ _ => ⟨removed, List.mem_cons_self⟩⟩

/-- What the launcher knows before it stops the session. -/
structure Prepared (restore watchdog : Bool) (deeds : List (DesktopDeed T)) : Prop where
  running : WasRunning deeds ↔ restore = true
  watched : watchdog = true → restore = true
  armed : Armed deeds → watchdog = true

theorem Prepared.goesOn {restore watchdog : Bool} {deeds' : List (DesktopDeed T)}
    (h : Prepared restore watchdog deeds) (hgoes : GoesOn deeds deeds') :
    Prepared restore watchdog deeds' where
  running := ⟨fun hrun => h.running.mp (hgoes.running hrun), fun hrun => hgoes.keeps (h.running.mpr hrun)⟩
  watched := h.watched
  armed harm := h.armed (hgoes.armed harm)

theorem armIf_follows {arms restore : Bool} : Follows (discipline T) .launcher
    (fun r result => match result with
      | .ok watchdog => ∃ deeds, r = .launcher deeds ∧ Prepared restore watchdog deeds ∧
        (Armed deeds → Held deeds)
      | .error _ => ∃ deeds, r = .launcher deeds) (armIf ticketPath arms restore)
    (.launcher [⟨.isRunning, .ok restore⟩]) := by
  have hnew : ¬ Armed (T := T) [⟨.isRunning, .ok restore⟩] := by simp [Armed]
  have hfirst : ¬ Stopped (T := T) [⟨.isRunning, .ok restore⟩] := by simp [Stopped]
  have hrunning : WasRunning (T := T) [⟨.isRunning, .ok restore⟩] ↔ restore = true := by
    simp [WasRunning, eq_comm]
  refine .ite (fun harms => ?_) fun hnot => ?_
  · have hrestore : restore = true := (Bool.and_eq_true _ _ ▸ harms).1
    refine .bind ((arm_follows ⟨hrunning.mpr hrestore, hnew, hfirst⟩).mono fun r result hr => ?_)
    cases result with
    | error error => exact follows_pure.mpr hr
    | ok u =>
      obtain ⟨deeds', rfl, hran, harmed, hheld⟩ := hr
      exact follows_pure.mpr ⟨deeds', rfl, ⟨iff_of_true hran hrestore,
        fun _ => hrestore, fun _ => rfl⟩, fun _ => hheld⟩
  · exact follows_pure.mpr ⟨_, rfl, ⟨hrunning, nofun, fun h => absurd h hnew⟩, fun h => absurd h hnew⟩

theorem stopFailed_follows {restore watchdog : Bool} {stopError : String}
    (h : Prepared restore watchdog deeds) : Follows (discipline T) .launcher
      (fun r result => Returns .launcher r (.launched result))
      (stopFailed ticketPath restore watchdog stopError) (.launcher deeds) := by
  refine .bind ((restoreIf_follows h.running.mpr).mono fun r result hr => ?_)
  obtain ⟨deeds₁, rfl, hgoes, hrestored⟩ := hr
  cases result with
  | error error => exact follows_pure.mpr trivial
  | ok u =>
    refine .bind ((disarmIf_follows fun hwatchdog =>
      hrestored rfl (h.watched hwatchdog)).mono fun r result hr => ?_)
    obtain ⟨deeds₂, rfl, -⟩ := hr
    exact follows_pure.mpr trivial

theorem playAndRestore_follows {restore watchdog : Bool} (h : Prepared restore watchdog deeds)
    (hstop : ⟨.stop, .ok ()⟩ ∈ deeds) : Follows (discipline T) .launcher
      (fun r result => Returns .launcher r (.launched result))
      (playAndRestore ticketPath restore watchdog) (.launcher deeds) := by
  refine launcher_call trivial fun played => ?_
  have h₁ := (GoesOn.refl : GoesOn deeds deeds).cons ⟨.game, played⟩ nofun nofun
  have hprepared := h.goesOn h₁
  refine .bind ((restoreIf_follows hprepared.running.mpr).mono fun r restoreResult hr => ?_)
  obtain ⟨deeds₂, rfl, h₂, hrestored⟩ := hr
  refine .bind ((disarmIf_follows fun hwatchdog => ?_).mono fun r disarmResult hr => ?_)
  · rw [Bool.and_eq_true] at hwatchdog
    exact hrestored hwatchdog.2 (h.watched hwatchdog.1)
  obtain ⟨deeds₃, rfl, h₃, hkept, hdisarmed⟩ := hr
  refine follows_pure.mpr ?_
  cases hplayed : played with
  | error error => cases restoreResult <;> cases disarmResult <;> trivial
  | ok value =>
    cases restoreResult with
    | error error => cases disarmResult <;> trivial
    | ok u =>
      cases disarmResult with
      | error error => trivial
      | ok u =>
        refine ⟨h₃.keeps (h₂.keeps (h₁.keeps hstop)), h₃.keeps (h₂.keeps (hplayed ▸ List.mem_cons_self)),
          fun hrun => hkept (hrestored rfl ?_), fun harm => hdisarmed rfl ?_⟩
        · exact (hprepared.goesOn h₂).running.mp (h₃.running hrun)
        · simp [Except.toBool, (hprepared.goesOn h₂).armed (h₃.armed harm)]

/-- **The launcher keeps to its role**, and returns a value only if everything succeeded. -/
theorem runWithDesktopRestoration_follows (arms : Bool) : Follows (discipline T) .launcher
    (Returns .launcher) (.launched <$> runWithDesktopRestoration ticketPath arms) (.launcher []) := by
  refine .bind (launcher_call trivial fun found => ?_)
  cases found with
  | error error => exact follows_pure.mpr (follows_pure.mpr trivial)
  | ok restore =>
    refine .bind (armIf_follows.mono fun r result hr => ?_)
    cases result with
    | error error =>
      obtain ⟨deeds, rfl⟩ := hr
      exact follows_pure.mpr (follows_pure.mpr trivial)
    | ok watchdog =>
      obtain ⟨deeds, rfl, hprepared, hheld⟩ := hr
      refine launcher_call hheld fun stopped => ?_
      have hgoes := (GoesOn.refl : GoesOn deeds deeds).cons ⟨.stop, stopped⟩ nofun nofun
      cases stopped with
      | error stopError =>
        exact (stopFailed_follows (hprepared.goesOn hgoes)).mono fun _ _ h => follows_pure.mpr h
      | ok u =>
        exact (playAndRestore_follows (hprepared.goesOn hgoes) List.mem_cons_self).mono
          fun _ _ h => follows_pure.mpr h

/-! ### The watchdog keeps to its role -/

theorem stalled_follows {α : Type} {Q : Role T → α → Prop} :
    Follows (discipline T) .watchdog Q stalled (.watchdog deeds) :=
  watchdog_call trivial fun never => never.elim

/-- Waiting ends when the launcher or the ticket was seen to be gone. -/
theorem watchParent_follows (fuel : ℕ) : Follows (discipline T) .watchdog
    (fun r _ => ∃ deeds', r = .watchdog deeds' ∧ (SeenDead deeds' ∨ SeenGone deeds'))
    (watchParent fuel) (.watchdog deeds) := by
  induction fuel generalizing deeds with
  | zero => exact stalled_follows
  | succ fuel ih =>
    refine watchdog_call trivial fun there _ _ => .ite (fun _ => ?_) fun hgone => ?_
    · refine watchdog_call trivial fun alive _ _ => .ite (fun _ => ih) fun hdead => ?_
      obtain rfl : alive = false := Bool.eq_false_iff.mpr hdead
      exact follows_pure.mpr ⟨_, rfl, .inl List.mem_cons_self⟩
    · obtain rfl : there = false := Bool.eq_false_iff.mpr hgone
      exact follows_pure.mpr ⟨_, rfl, .inr (.inl List.mem_cons_self)⟩

/-- The watchdog is in charge: the launcher is gone, and the ticket is not. -/
structure InCharge (deeds : List (DesktopDeed T)) : Prop where
  dead : SeenDead deeds
  there : ¬ SeenGone deeds
  sure : Sure deeds

theorem seenGone_cons {deed : DesktopDeed T} :
    SeenGone (deed :: deeds) ↔ SeenGone [deed] ∨ SeenGone deeds := by
  simp only [SeenGone, List.mem_cons, List.not_mem_nil, or_false]
  tauto

theorem removeRestoreTicket_follows (hdead : SeenDead deeds)
    (hreason : Started deeds ∨ ObservedRestored deeds) : Follows (discipline T) .watchdog
      (fun r _ => ∃ deeds', r = .watchdog deeds' ∧ (Started deeds' ∨ ObservedRestored deeds'))
      (removeRestoreTicket ticketPath) (.watchdog deeds) := by
  refine watchdog_call ⟨hdead, hreason⟩ fun removed _ _ => ?_
  have hreason : Started (⟨.removeTicket, removed⟩ :: deeds) ∨
      ObservedRestored (⟨.removeTicket, removed⟩ :: deeds) := by
    refine hreason.imp (List.mem_cons_of_mem _) ?_
    rintro ⟨later, status, text, earlier, rfl, hobserved⟩
    exact ⟨⟨.removeTicket, removed⟩ :: later, status, text, earlier, rfl, hobserved⟩
  cases removed with
  | error error => exact follows_pure.mpr ⟨_, rfl, hreason⟩
  | ok removed => exact follows_pure.mpr ⟨_, rfl, hreason⟩

/-- A look ends the watch for a reason, or leaves the watchdog in charge. -/
theorem watchOnce_follows (h : InCharge deeds) : Follows (discipline T) .watchdog
    (fun r result => ∃ deeds', r = .watchdog deeds' ∧ match result with
      | some _ => Started deeds' ∨ ObservedRestored deeds'
      | none => InCharge deeds') (watchOnce ticketPath) (.watchdog deeds) := by
  refine watchdog_call trivial fun read hread _ => watchdog_call trivial fun status _ _ => ?_
  have hgone : ¬ SeenGone (⟨.status, status⟩ :: ⟨.readTicket, read⟩ :: deeds) := by
    intro hgone
    rcases seenGone_cons.mp hgone with hgone | hgone
    · simp [SeenGone] at hgone
    · exact (seenGone_cons.mp hgone).elim (hread h.sure) h.there
  have hcharge : InCharge (⟨.status, status⟩ :: ⟨.readTicket, read⟩ :: deeds) :=
    ⟨List.mem_cons_of_mem _ (List.mem_cons_of_mem _ h.dead), hgone, h.sure⟩
  cases status with
  | error error => exact follows_pure.mpr ⟨_, rfl, hcharge⟩
  | ok status =>
    dsimp only
    cases haction : watchdogAction (trim rustBlank (phaseOf read)) (sessionIsRunning status) with
    | wait => exact follows_pure.mpr ⟨_, rfl, hcharge⟩
    | complete =>
      have hphase : sessionIsRunning status = true ∧ trim rustBlank (phaseOf read) = "restoring" := by
        unfold watchdogAction at haction
        split_ifs at haction with hrunning hphase
        exact ⟨by simpa using hrunning, hphase⟩
      refine .bind ((removeRestoreTicket_follows hcharge.dead (.inr ?_)).mono fun r _ hr => follows_pure.mpr hr)
      have hnot : trim rustBlank "armed" ≠ "restoring" := by decide
      cases read with
      | error error => exact absurd hphase.2 hnot
      | ok text =>
        cases text with
        | none => exact absurd hphase.2 hnot
        | some text => exact ⟨[], status, text, deeds, rfl, hphase⟩
    | restore =>
      refine watchdog_call ⟨hcharge.dead, hgone⟩ fun started _ _ => ?_
      cases started with
      | error error =>
        refine follows_pure.mpr ⟨_, rfl, List.mem_cons_of_mem _ hcharge.dead, ?_, h.sure⟩
        rw [seenGone_cons]
        rintro (hgone' | hgone')
        · simp [SeenGone] at hgone'
        · exact hgone hgone'
      | ok u =>
        exact .bind ((removeRestoreTicket_follows (List.mem_cons_of_mem _ hcharge.dead)
          (.inl List.mem_cons_self)).mono fun r _ hr => follows_pure.mpr hr)

theorem watchSession_follows (fuel : ℕ) (h : InCharge deeds) : Follows (discipline T) .watchdog
    (fun r result => Returns .watchdog r (.watched result)) (watchSession ticketPath fuel)
    (.watchdog deeds) := by
  induction fuel generalizing deeds with
  | zero => exact stalled_follows
  | succ fuel ih =>
    refine .bind ((watchOnce_follows h).mono fun r result hr => ?_)
    obtain ⟨deeds', rfl, hr⟩ := hr
    cases result with
    | some result =>
      cases result with
      | error error => exact follows_pure.mpr trivial
      | ok u => exact follows_pure.mpr (.inr hr)
    | none =>
      have h' : InCharge deeds' := hr
      refine watchdog_call trivial fun there hthere _ => .ite (fun hyes => ih ?_) fun hno => ?_
      · obtain rfl : there = true := hyes
        refine ⟨List.mem_cons_of_mem _ h'.dead, ?_, .inl h'.dead⟩
        rw [seenGone_cons]
        rintro (hgone | hgone)
        · simp [SeenGone] at hgone
        · exact h'.there hgone
      · obtain rfl : there = false := Bool.eq_false_iff.mpr hno
        exact follows_pure.mpr (.inl (.inl List.mem_cons_self))

/-- **The watchdog keeps to its role**, and returns for a reason. -/
theorem restoreDesktopSession_follows (fuel : ℕ) : Follows (discipline T) .watchdog
    (Returns .watchdog) (.watched <$> restoreDesktopSession ticketPath fuel) (.watchdog []) := by
  refine .bind (.bind ((watchParent_follows fuel).mono fun r _ hr => ?_))
  obtain ⟨deeds, rfl, hseen⟩ := hr
  refine watchdog_call trivial fun there _ hgone => .ite (fun hyes => ?_) fun hno => ?_
  · obtain rfl : there = true := hyes
    have hthere : ¬ SeenGone deeds := fun h => hgone h rfl
    have hdead : SeenDead deeds := hseen.resolve_right hthere
    have hcharge : InCharge (⟨.ticketExists, true⟩ :: deeds) := by
      refine ⟨List.mem_cons_of_mem _ hdead, fun hgone => ?_, .inl hdead⟩
      rcases seenGone_cons.mp hgone with hgone | hgone
      · simp [SeenGone] at hgone
      · exact hthere hgone
    exact (watchSession_follows fuel hcharge).mono fun _ _ h => follows_pure.mpr h
  · obtain rfl : there = false := Bool.eq_false_iff.mpr hno
    exact follows_pure.mpr (follows_pure.mpr (.inl (.inl List.mem_cons_self)))

end Texts

/-! ### The invariant -/

/-- What is true of an event, after the events `earlier`. -/
structure Lawful (event : DesktopEvent T) (earlier : List (DesktopEvent T)) : Prop where
  starts : event.op = .start → WasRunning (deeds .launcher earlier)
  launcherRemoves : event.kind = .launcher → event.op = .removeTicket →
    RestoredSince (deeds .launcher earlier) ∨
      ¬ Armed (deeds .launcher earlier) ∧ ¬ Stopped (deeds .launcher earlier)
  watchdogRemoves : event.kind = .watchdog → event.op = .removeTicket →
    Started (deeds .watchdog earlier) ∨ ObservedRestored (deeds .watchdog earlier)
  watchdogStarts : event.kind = .watchdog → event.op = .start →
    event.before.parentAlive = false ∧ ¬ SeenGone (deeds .watchdog earlier)

/-- What a living launcher has to do with the ticket. -/
structure LauncherKnows (files : DesktopFiles) (own : List (DesktopDeed T)) : Prop where
  alive : files.parentAlive = true
  held : Held own → files.ticket.isSome = true
  armed : Armed own → Held own ∨ RestoredSince own

/-- What the watchdog has to do with the ticket. -/
structure WatchdogKnows (files : DesktopFiles) (own : List (DesktopDeed T)) : Prop where
  dead : SeenDead own → files.parentAlive = false
  sure : Sure own → files.ticket.isSome = true
  gone : SeenGone own → files.ticket = none

structure Invariant (files : DesktopFiles) (history : List (DesktopEvent T))
    (roles : ℕ → Option (Role T)) : Prop where
  launcher : ∀ p own, roles p = some (.launcher own) →
    p = 0 ∧ own = deeds .launcher history ∧ LauncherKnows files own
  dead : ∀ p, roles p = some .dead → p = 0
  watchdog : ∀ p own, roles p = some (.watchdog own) →
    own = deeds .watchdog history ∧ WatchdogKnows files own ∧ Armed (deeds .launcher history) ∧
      WasRunning (deeds .launcher history)
  oneWatchdog : ∀ p q own own', roles p = some (.watchdog own) → roles q = some (.watchdog own') →
    p = q
  fresh : ¬ Armed (deeds .launcher history) → deeds .watchdog history = []
  past : Always Lawful history

section Invariant

variable {files files' : DesktopFiles} {history : List (DesktopEvent T)} {roles : ℕ → Option (Role T)}
  {own : List (DesktopDeed T)} {op : DesktopOp} {answer : op.Answer T} {pid : ℕ}

theorem seenDead_of_sure (h : Sure own) : SeenDead own := by
  induction own with
  | nil => exact h.elim
  | cons deed own ih =>
    refine List.mem_cons_of_mem _ ?_
    unfold Sure at h
    split at h
    · contradiction
    · exact h.elim
    · next heq =>
      obtain ⟨rfl, rfl⟩ := List.cons.inj heq
      exact h.elim id ih
    · next heq =>
      obtain ⟨rfl, rfl⟩ := List.cons.inj heq
      exact ih h

/-- The launcher is killed by nobody's operation, and only creating and removing decide whether
the ticket is there. -/
theorem exec_cases (h : op.Exec files answer files') : files'.parentAlive = files.parentAlive ∧
    (op ≠ .createTicket → op ≠ .removeTicket → files'.ticket.isSome = files.ticket.isSome) := by
  cases op with
  | isRunning | stop | start | game | currentExe | spawnWatchdog | status =>
    obtain rfl : files' = files := h
    exact ⟨rfl, fun _ _ => rfl⟩
  | createTicket =>
    refine ⟨?_, fun hne => absurd rfl hne⟩
    cases answer with
    | ok u => rw [h.2]
    | error error => rw [show files' = files from h]
  | removeTicket =>
    refine ⟨?_, fun _ hne => absurd rfl hne⟩
    cases answer with
    | ok removed => rw [h.2]
    | error error => rw [show files' = files from h]
  | truncateTicket =>
    cases answer with
    | ok u =>
      obtain ⟨hthere, rfl⟩ := h
      exact ⟨rfl, fun _ _ => hthere.symm⟩
    | error error =>
      obtain rfl : files' = files := h
      exact ⟨rfl, fun _ _ => rfl⟩
  | writeTicket text =>
    cases answer with
    | ok u =>
      obtain rfl := h
      exact ⟨rfl, fun _ _ => Option.isSome_map⟩
    | error error =>
      obtain ⟨part, rfl⟩ := h
      exact ⟨rfl, fun _ _ => Option.isSome_map⟩
  | readTicket =>
    cases answer with
    | ok text =>
      obtain ⟨-, rfl⟩ := h
      exact ⟨rfl, fun _ _ => rfl⟩
    | error error =>
      obtain rfl : files' = files := h
      exact ⟨rfl, fun _ _ => rfl⟩
  | ticketExists | parentExists =>
    obtain ⟨-, rfl⟩ := h
    exact ⟨rfl, fun _ _ => rfl⟩
  | stall => exact answer.elim

/-- A ticket that is gone comes back only when it is created. -/
theorem exec_none (h : op.Exec files answer files') (hcreate : op ≠ .createTicket)
    (hnone : files.ticket = none) : files'.ticket = none := by
  rcases eq_or_ne op .removeTicket with rfl | hremove
  · cases answer with
    | ok removed => rw [h.2]
    | error error => rwa [show files' = files from h]
  · have hsome := (exec_cases h).2 hcreate hremove
    rwa [hnone, Option.isSome_none, Option.isSome_eq_false_iff, Option.isNone_iff_eq_none] at hsome

/-! #### The launcher -/

theorem held_kept (h : op.Exec files answer files') (hheld : Held own → files.ticket.isSome = true)
    (hheld' : Held (⟨op, answer⟩ :: own)) : files'.ticket.isSome = true := by
  rcases eq_or_ne op .createTicket with rfl | hcreate
  · cases answer with
    | ok u => rw [h.2, Option.isSome_some]
    | error error =>
      rw [show files' = files from h]
      exact hheld hheld'
  rcases eq_or_ne op .removeTicket with rfl | hremove
  · exact hheld'.elim
  rw [(exec_cases h).2 hcreate hremove]
  refine hheld ?_
  cases op with
  | createTicket => exact absurd rfl hcreate
  | removeTicket => exact absurd rfl hremove
  | _ => exact hheld'

/-- A launcher with a watchdog either has the ticket or has restored the session. -/
theorem armed_kept (hallows : (Role.launcher own).Allows op) (h : Armed own → Held own ∨ RestoredSince own)
    (harmed' : Armed (⟨op, answer⟩ :: own)) :
    Held (⟨op, answer⟩ :: own) ∨ RestoredSince (⟨op, answer⟩ :: own) := by
  rcases List.mem_cons.mp harmed' with hspawned | harmed
  · cases hspawned
    exact .inl hallows.2.1
  cases op with
  | createTicket => exact absurd harmed hallows
  | spawnWatchdog => exact absurd harmed hallows.1
  | removeTicket => exact .inr (hallows.resolve_right fun hnew => hnew.1 harmed)
  | stop => exact .inl (hallows harmed)
  | start =>
    cases answer with
    | ok u => exact .inr trivial
    | error error => exact h harmed
  | isRunning | game | writeTicket | truncateTicket | currentExe => exact h harmed
  | ticketExists | parentExists | readTicket | status | stall => exact hallows.elim

/-- What the launcher does keeps the invariant. -/
theorem Invariant.launcher_kept (h : Invariant files history roles)
    (hr : roles pid = some (.launcher own)) (hallows : (Role.launcher own).Allows op)
    (hexec : op.Exec files answer files') :
    Invariant files' (⟨pid, .launcher, files, op, answer⟩ :: history)
      (Function.update roles pid (some (.launcher (⟨op, answer⟩ :: own)))) := by
  obtain ⟨rfl, rfl, hknows⟩ := h.launcher pid own hr
  have hdeeds : deeds .launcher (⟨0, .launcher, files, op, answer⟩ :: history) =
      ⟨op, answer⟩ :: deeds .launcher history := by simp [deeds_cons]
  have hwatched : deeds .watchdog (⟨0, .launcher, files, op, answer⟩ :: history) =
      deeds .watchdog history := by simp [deeds_cons]
  have halive : files'.parentAlive = true := by rw [(exec_cases hexec).1, hknows.alive]
  have hothers : ∀ p r, p ≠ 0 →
      Function.update roles 0 (some (.launcher (⟨op, answer⟩ :: deeds .launcher history))) p = some r →
        roles p = some r := fun p r hne hp => by rwa [Function.update_of_ne hne] at hp
  have hwatchdogs : ∀ p own, Function.update roles 0
      (some (.launcher (⟨op, answer⟩ :: deeds .launcher history))) p = some (.watchdog own) →
        roles p = some (.watchdog own) := by
    intro p own hp
    rcases eq_or_ne p 0 with rfl | hne
    · simp at hp
    · exact hothers p _ hne hp
  constructor
  case launcher =>
    intro p own' hp
    rcases eq_or_ne p 0 with rfl | hne
    · rw [Function.update_self, Option.some.injEq, Role.launcher.injEq] at hp
      subst hp
      exact ⟨rfl, hdeeds.symm, halive, held_kept hexec hknows.held, armed_kept hallows hknows.armed⟩
    · exact absurd (h.launcher p own' (hothers p _ hne hp)).1 hne
  case dead =>
    intro p hp
    rcases eq_or_ne p 0 with rfl | hne
    · rfl
    · exact h.dead p (hothers p _ hne hp)
  case watchdog =>
    intro p own' hp
    obtain ⟨hown, hwatches, harmed, hrunning⟩ := h.watchdog p own' (hwatchdogs p own' hp)
    refine ⟨hown.trans hwatched.symm, ⟨fun hdead => ?_, fun hsure => ?_, fun hgone => ?_⟩, ?_⟩
    · exact absurd (hwatches.dead hdead) (by simp [hknows.alive])
    · exact absurd (hwatches.dead (seenDead_of_sure hsure)) (by simp [hknows.alive])
    · refine exec_none hexec ?_ (hwatches.gone hgone)
      rintro rfl
      exact hallows harmed
    · rw [hdeeds]
      exact ⟨List.mem_cons_of_mem _ harmed, List.mem_cons_of_mem _ hrunning⟩
  case oneWatchdog =>
    intro p q own₁ own₂ hp hq
    exact h.oneWatchdog p q own₁ own₂ (hwatchdogs p own₁ hp) (hwatchdogs q own₂ hq)
  case fresh =>
    intro hnew
    rw [hwatched]
    refine h.fresh fun harmed => hnew ?_
    rw [hdeeds]
    exact List.mem_cons_of_mem _ harmed
  case past =>
    refine ⟨⟨fun hop => ?_, fun _ hop => ?_, nofun, nofun⟩, h.past⟩
    · obtain rfl : op = .start := hop
      exact hallows
    · obtain rfl : op = .removeTicket := hop
      exact hallows

/-! #### The watchdog -/

theorem not_create_of_watchdog (hallows : (Role.watchdog own).Allows op) : op ≠ .createTicket := by
  rintro rfl
  exact hallows

/-- What the watchdog has seen is still true after its next operation. -/
theorem WatchdogKnows.cons (h : WatchdogKnows files own) (hallows : (Role.watchdog own).Allows op)
    (hexec : op.Exec files answer files') : WatchdogKnows files' (⟨op, answer⟩ :: own) := by
  have hcreate := not_create_of_watchdog hallows
  refine ⟨fun hdead => ?_, fun hsure => ?_, fun hgone => ?_⟩
  · rw [(exec_cases hexec).1]
    rcases List.mem_cons.mp hdead with heq | hdead
    · cases heq
      exact hexec.1 rfl
    · exact h.dead hdead
  · unfold Sure at hsure
    split at hsure
    · contradiction
    · exact hsure.elim
    · next heq =>
      cases heq
      obtain ⟨hthere, rfl⟩ := hexec
      exact hthere.symm
    · next hremove _ heq =>
      cases heq
      rw [(exec_cases hexec).2 hcreate fun hop => ?_]
      · exact h.sure hsure
      · subst hop
        exact hremove answer rfl
  · rcases seenGone_cons.mp hgone with hgone | hgone
    · simp only [SeenGone, List.mem_singleton] at hgone
      rcases hgone with heq | heq
      · cases heq
        obtain ⟨hthere, rfl⟩ := hexec
        exact Option.isSome_eq_false_iff.mp hthere.symm |> Option.isNone_iff_eq_none.mp
      · cases heq
        obtain ⟨hthere, rfl⟩ := hexec
        exact hthere.symm
    · exact exec_none hexec hcreate (h.gone hgone)

/-- What the watchdog sees agrees with what it knows. -/
theorem WatchdogKnows.turns (h : WatchdogKnows files own) (hexec : op.Exec files answer files') :
    (Sure own → ¬ SeenGone (T := T) [⟨op, answer⟩]) ∧
      (SeenGone own → (⟨op, answer⟩ : DesktopDeed T) ≠ ⟨.ticketExists, true⟩) := by
  refine ⟨fun hsure hgone => ?_, ?_⟩
  · have hthere := h.sure hsure
    simp only [SeenGone, List.mem_singleton] at hgone
    rcases hgone with heq | heq
    · cases heq
      exact absurd (hexec.1.trans hthere) nofun
    · cases heq
      rw [← hexec.1] at hthere
      exact absurd hthere nofun
  · rintro hgone heq
    cases heq
    have hthere := hexec.1
    rw [h.gone hgone] at hthere
    exact absurd hthere nofun

/-- What the watchdog does keeps the invariant. -/
theorem Invariant.watchdog_kept (h : Invariant files history roles)
    (hr : roles pid = some (.watchdog own)) (hallows : (Role.watchdog own).Allows op)
    (hexec : op.Exec files answer files') :
    Invariant files' (⟨pid, .watchdog, files, op, answer⟩ :: history)
      (Function.update roles pid (some (.watchdog (⟨op, answer⟩ :: own)))) := by
  obtain ⟨rfl, hknows, harmed, hrunning⟩ := h.watchdog pid own hr
  have hdeeds : deeds .watchdog (⟨pid, .watchdog, files, op, answer⟩ :: history) =
      ⟨op, answer⟩ :: deeds .watchdog history := by simp [deeds_cons]
  have hlaunched : deeds .launcher (⟨pid, .watchdog, files, op, answer⟩ :: history) =
      deeds .launcher history := by simp [deeds_cons]
  have hwatchdogs : ∀ p own', Function.update roles pid
      (some (.watchdog (⟨op, answer⟩ :: deeds .watchdog history))) p = some (.watchdog own') → p = pid := by
    intro p own' hp
    by_contra hne
    rw [Function.update_of_ne hne] at hp
    exact hne (h.oneWatchdog p pid _ _ hp hr)
  constructor
  case launcher =>
    intro p own' hp
    rcases eq_or_ne p pid with rfl | hne
    · simp at hp
    rw [Function.update_of_ne hne] at hp
    obtain ⟨rfl, hown, hlives⟩ := h.launcher p own' hp
    refine ⟨rfl, hown.trans hlaunched.symm, (exec_cases hexec).1.trans hlives.alive, fun hheld => ?_,
      hlives.armed⟩
    rw [(exec_cases hexec).2 (not_create_of_watchdog hallows), hlives.held hheld]
    rintro rfl
    exact absurd (hknows.dead hallows.1) (by simp [hlives.alive])
  case dead =>
    intro p hp
    rcases eq_or_ne p pid with rfl | hne
    · simp at hp
    · exact h.dead p (by rwa [Function.update_of_ne hne] at hp)
  case watchdog =>
    intro p own' hp
    obtain rfl := hwatchdogs p own' hp
    rw [Function.update_self, Option.some.injEq, Role.watchdog.injEq] at hp
    subst hp
    exact ⟨hdeeds.symm, hknows.cons hallows hexec, hlaunched ▸ ⟨harmed, hrunning⟩⟩
  case oneWatchdog =>
    intro p q own₁ own₂ hp hq
    rw [hwatchdogs p own₁ hp, hwatchdogs q own₂ hq]
  case fresh =>
    intro hnew
    exact absurd (by rwa [hlaunched]) hnew
  case past =>
    refine ⟨⟨fun _ => hrunning, nofun, fun _ hop => ?_, fun _ hop => ?_⟩, h.past⟩
    · obtain rfl : op = .removeTicket := hop
      exact hallows.2
    · obtain rfl : op = .start := hop
      exact ⟨hknows.dead hallows.1, hallows.2⟩

/-! #### All steps -/

/-- A watchdog is started. -/
theorem Invariant.watchdog_born (h : Invariant files history roles)
    (harmed : Armed (deeds .launcher history) ∧ WasRunning (deeds .launcher history)) (hfresh : deeds .watchdog history = [])
    (hnone : ∀ p own, roles p ≠ some (.watchdog own)) (child : ℕ) :
    Invariant files history (Function.update roles child (some (.watchdog []))) := by
  have hothers : ∀ p r, (∀ own, r ≠ .watchdog own) →
      Function.update roles child (some (.watchdog [])) p = some r → roles p = some r := by
    intro p r hr hp
    rcases eq_or_ne p child with rfl | hne
    · rw [Function.update_self, Option.some.injEq] at hp
      exact absurd hp.symm (hr [])
    · rwa [Function.update_of_ne hne] at hp
  have hborn : ∀ p own, Function.update roles child (some (.watchdog [])) p = some (.watchdog own) →
      p = child ∧ own = [] := by
    intro p own hp
    rcases eq_or_ne p child with rfl | hne
    · rw [Function.update_self, Option.some.injEq, Role.watchdog.injEq] at hp
      exact ⟨rfl, hp.symm⟩
    · rw [Function.update_of_ne hne] at hp
      exact absurd hp (hnone p own)
  refine ⟨fun p own hp => h.launcher p own (hothers p _ nofun hp),
    fun p hp => h.dead p (hothers p _ nofun hp), fun p own hp => ?_, fun p q own own' hp hq => ?_,
    h.fresh, h.past⟩
  · obtain ⟨rfl, rfl⟩ := hborn p own hp
    exact ⟨hfresh.symm, ⟨nofun, False.elim, by simp [SeenGone]⟩, harmed⟩
  · rw [(hborn p own hp).1, (hborn q own' hq).1]

/-- The launcher is killed. -/
theorem Invariant.launcher_killed (h : Invariant files history roles) (hpid : pid = 0) :
    Invariant { files with parentAlive := files.parentAlive && DesktopTask.launcher ≠ .launcher }
      history (Function.update roles pid (some .dead)) := by
  subst hpid
  have hothers : ∀ {p r}, Function.update roles 0 (some .dead) p = some r → r ≠ .dead →
      p ≠ 0 ∧ roles p = some r := by
    intro p r hp hr
    rcases eq_or_ne p 0 with rfl | hne
    · rw [Function.update_self, Option.some.injEq] at hp
      exact absurd hp.symm hr
    · exact ⟨hne, by rwa [Function.update_of_ne hne] at hp⟩
  refine ⟨fun p own hp => ?_, fun p hp => ?_, fun p own hp => ?_, fun p q own own' hp hq => ?_,
    h.fresh, h.past⟩
  · obtain ⟨hne, hp⟩ := hothers hp nofun
    exact absurd (h.launcher p own hp).1 hne
  · rcases eq_or_ne p 0 with rfl | hne
    · rfl
    · exact h.dead p (by rwa [Function.update_of_ne hne] at hp)
  · obtain ⟨-, hp⟩ := hothers hp nofun
    obtain ⟨hown, hwatches, harmed⟩ := h.watchdog p own hp
    exact ⟨hown, ⟨fun _ => by simp, hwatches.sure, hwatches.gone⟩, harmed⟩
  · exact h.oneWatchdog p q own own' (hothers hp nofun).2 (hothers hq nofun).2

/-- Whatever the launcher and the watchdog do, in any order, keeps the invariant. -/
theorem restoration_kept (ticketPath : String) (fuel : ℕ) :
    (restoration T ticketPath fuel).Kept (discipline T) Returns Invariant where
  perform {files history roles pid kind r op answer files'} h hr hplays hallows hexec halone := by
    cases kind with
    | launcher =>
      cases r with
      | launcher own => exact ⟨_, rfl, trivial, h.launcher_kept hr hallows hexec⟩
      | watchdog own => exact hplays.elim
      | dead => exact (by cases op <;> exact hallows.elim)
    | watchdog =>
      cases r with
      | launcher own => exact hplays.elim
      | watchdog own =>
        have hknows := (h.watchdog pid own hr).2.1
        exact ⟨_, ⟨rfl, hknows.turns hexec⟩, trivial, h.watchdog_kept hr hallows hexec⟩
      | dead => exact hplays.elim
  start {files history roles pid kind r op answer files' child process} h hr hplays hallows hexec
      hstarts hchild := by
    have hspawned : ∃ u, (⟨op, answer⟩ : DesktopDeed T) = ⟨.spawnWatchdog, .ok u⟩ ∧
        process = ⟨.watchdog, some (.watched <$> restoreDesktopSession ticketPath fuel)⟩ := by
      cases op with
      | spawnWatchdog =>
        cases answer with
        | ok u => exact ⟨u, rfl, (Option.some.inj hstarts).symm⟩
        | error error => cases hstarts
      | _ => cases hstarts
    obtain ⟨u, heq, rfl⟩ := hspawned
    cases heq
    cases r with
    | watchdog own => exact hallows.elim
    | dead => exact hallows.elim
    | launcher own =>
      obtain rfl : kind = .launcher := by
        cases kind with
        | launcher => rfl
        | watchdog => exact hplays.elim
      obtain ⟨-, hown, -⟩ := h.launcher pid own hr
      have hmay : (Role.launcher own).Allows .spawnWatchdog := hallows
      refine ⟨_, .watchdog [], rfl, trivial, ⟨trivial, restoreDesktopSession_follows fuel⟩,
        (h.launcher_kept hr hmay hexec).watchdog_born ?_ ?_ ?_ child⟩
      · rw [deeds_cons, if_pos rfl, ← hown]
        exact ⟨List.mem_cons_self, List.mem_cons_of_mem _ hallows.2.2⟩
      · rw [deeds_cons, if_neg nofun]
        exact h.fresh (hown ▸ hallows.1)
      · intro p own' hp
        rcases eq_or_ne p pid with rfl | hne
        · simp at hp
        · rw [Function.update_of_ne hne] at hp
          exact hallows.1 (hown ▸ (h.watchdog p own' hp).2.2.1)
  arrive _ _ harrives := harrives.elim
  die {files history roles pid kind r files'} h hr hplays hdies := by
    obtain rfl := hdies
    cases kind with
    | launcher =>
      refine ⟨.dead, trivial, trivial, h.launcher_killed ?_⟩
      cases r with
      | launcher own => exact (h.launcher pid own hr).1
      | dead => exact h.dead pid hr
      | watchdog own => exact hplays.elim
    | watchdog =>
      refine ⟨r, hplays, trivial, ?_⟩
      rw [← hr, Function.update_eq_self]
      simpa using h
  drift _ hdrifts := hdrifts.elim

end Invariant

/-! ### Safety -/

theorem restoration_governed {ticketPath : String} {fuel : ℕ} {arms : Bool} {c : DesktopConfig T}
    (hrun : (restoration T ticketPath fuel).Run (launching T ticketPath arms) c) :
    c.Governed (discipline T) Returns Invariant := by
  refine (restoration_kept ticketPath fuel).reachable
    ⟨Function.update (fun _ => none) 0 (some (.launcher [])), ?_, ?_⟩ hrun
  · have hlauncher : ∀ p r, Function.update (fun _ => none) 0 (some (Role.launcher (T := T) [])) p = some r →
        p = 0 ∧ r = .launcher [] := by
      intro p r hp
      rcases eq_or_ne p 0 with rfl | hne
      · exact ⟨rfl, by simpa using hp.symm⟩
      · rw [Function.update_of_ne hne] at hp
        cases hp
    refine ⟨fun p own hp => ?_, fun p hp => (hlauncher p _ hp).1, fun p own hp => ?_,
      fun p q own own' hp hq => ?_, fun _ => rfl, trivial⟩
    · obtain ⟨rfl, hown⟩ := hlauncher p _ hp
      cases hown
      exact ⟨rfl, rfl, rfl, False.elim, nofun⟩
    · cases (hlauncher p _ hp).2
    · cases (hlauncher p _ hp).2
  · exact Casts.update (fun _ => .none) 0 ⟨trivial, runWithDesktopRestoration_follows arms⟩

/-- **Somebody restores the session**, whatever fails and whoever is killed: a launcher that has
returned has started a session that was running again, or left the ticket to the watchdog it
armed, and it has returned a value only if everything succeeded; a watchdog that has returned
without an error has a reason; and every operation is lawful. -/
theorem session_is_restored {ticketPath : String} {fuel : ℕ} {arms : Bool} {c : DesktopConfig T}
    (hrun : (restoration T ticketPath fuel).Run (launching T ticketPath arms) c) :
    (∀ pid result, c.processes pid = some ⟨.launcher, some (.done (.launched result))⟩ →
      (WasRunning (deeds .launcher c.history) → Armed (deeds .launcher c.history) →
        RestoredSince (deeds .launcher c.history) ∨ c.shared.ticket.isSome = true) ∧
      ∀ value, result = .ok value →
        ⟨.stop, .ok ()⟩ ∈ deeds .launcher c.history ∧ ⟨.game, .ok value⟩ ∈ deeds .launcher c.history ∧
        (WasRunning (deeds .launcher c.history) → RestoredSince (deeds .launcher c.history)) ∧
        (Armed (deeds .launcher c.history) →
          ∃ removed, ⟨.removeTicket, .ok removed⟩ ∈ deeds .launcher c.history)) ∧
    (∀ pid, c.processes pid = some ⟨.watchdog, some (.done (.watched (.ok ())))⟩ →
      c.shared.ticket = none ∨ Started (deeds .watchdog c.history) ∨
        ObservedRestored (deeds .watchdog c.history)) ∧
    ∀ later event earlier, c.history = later ++ event :: earlier → Lawful event earlier := by
  obtain ⟨roles, h, hcasts⟩ := restoration_governed hrun
  refine ⟨fun pid result hprocess => ?_, fun pid hprocess => ?_, always_iff.mp h.past⟩
  · obtain ⟨r, hr, hplays, hfollows⟩ := hcasts.role hprocess
    have hreturns : Returns .launcher r (.launched result) := follows_pure.mp hfollows
    cases r with
    | watchdog own => exact hplays.elim
    | dead => cases result <;> exact hreturns.elim
    | launcher own =>
      obtain ⟨-, rfl, hknows⟩ := h.launcher pid own hr
      refine ⟨fun _ harmed => (hknows.armed harmed).symm.imp_right hknows.held, ?_⟩
      rintro value rfl
      exact hreturns
  · obtain ⟨r, hr, hplays, hfollows⟩ := hcasts.role hprocess
    have hreturns : Returns .watchdog r (.watched (.ok ())) := follows_pure.mp hfollows
    cases r with
    | launcher own => exact hplays.elim
    | dead => exact hplays.elim
    | watchdog own =>
      obtain ⟨rfl, hknows, -⟩ := h.watchdog pid own hr
      exact hreturns.imp_left hknows.gone

/-- A game is played, and the session is restored. -/
theorem played_is_restored : ∃ c : DesktopConfig Unit,
    (restoration Unit "/run/ticket" 9).Run (launching Unit "/run/ticket" true) c ∧
    c.processes 0 = some ⟨.launcher, some (.done (.launched (.ok ())))⟩ ∧
    (RestoredSince (deeds .launcher c.history) ∨ c.shared.ticket.isSome = true) := by
  have perform := @System.Step.perform _ _ _ _ _ (restoration Unit "/run/ticket" 9)
  have hasked : (restoration Unit "/run/ticket" 9).Run (launching Unit "/run/ticket" true) _ :=
    .single (@perform _ 0 _ .isRunning _ (.ok true) _ rfl rfl rfl)
  have hcreated := hasked.tail (@perform _ 0 _ .createTicket _ (.ok ()) _ rfl ⟨rfl, rfl⟩ rfl)
  have hwritten := hcreated.tail (@perform _ 0 _ (.writeTicket "armed\n") _ (.ok ()) _ rfl rfl rfl)
  have hfound := hwritten.tail (@perform _ 0 _ .currentExe _ (.ok ()) _ rfl rfl rfl)
  have harmed := hfound.tail (@System.Step.start _ _ _ _ _ (restoration Unit "/run/ticket" 9)
    _ 0 _ .spawnWatchdog _ (.ok ()) _ 1 _ rfl rfl rfl rfl)
  have hstopped := harmed.tail (@perform _ 0 _ .stop _ (.ok ()) _ rfl rfl rfl)
  have hplayed := hstopped.tail (@perform _ 0 _ .game _ (.ok ()) _ rfl rfl rfl)
  have hemptied := hplayed.tail (@perform _ 0 _ .truncateTicket _ (.ok ()) _ rfl ⟨rfl, rfl⟩ rfl)
  have hmarked := hemptied.tail (@perform _ 0 _ (.writeTicket "restoring\n") _ (.ok ()) _ rfl rfl rfl)
  have hstarted := hmarked.tail (@perform _ 0 _ .start _ (.ok ()) _ rfl rfl rfl)
  have hrun := hstarted.tail (@perform _ 0 _ .removeTicket _ (.ok true) _ rfl ⟨rfl, rfl⟩ rfl)
  refine ⟨_, hrun, rfl, ((session_is_restored hrun).1 0 (.ok ()) rfl).1 ?_ ?_⟩
  · simp [deeds, WasRunning]
  · simp [deeds, Armed]

end Wroid.Restoration
