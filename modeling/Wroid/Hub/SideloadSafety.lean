import Wroid.Hub.Sideload

/-!
# Sideloading is safe

The lock is created by one process and removed by another, and it is gone before the status
says how the installation ended.  It protects a package only while its status is `inspected`:
whoever moves the status on owns the package from there, with or without the lock, until the
status is final or back at `inspected`.

## Main definitions

* `Role` — what a process knows about the lock and the status.
* `discipline` — what each role may do.
* `Invariant` — what the roles know is true, one process at most holds the lock, and one
  at most owns the package.

## Main results

* `sideload_kept` — every operation keeps the invariant.
* `sideload_is_safe` — **one worker at most, started by the request that queued the package; no
  discard of a package in use; and a status that only moves forwards**.
-/

namespace Wroid.Sideload

open Lib

/-! ### Roles -/

/-- What a process knows.  A worker remembers the request it was launched by. -/
inductive Role
  | idle
  | locked
  | ready
  | cleared
  | claimed
  | refused
  | released
  | worker (claimant : ℕ)
  | installing (claimant : ℕ)
  | finishing
  | finished
  deriving DecidableEq

namespace Role

/-- The lock is removed by this process alone. -/
def Holds : Role → Prop
  | .locked | .ready | .cleared | .claimed | .refused | .worker _ | .installing _ => True
  | .idle | .released | .finishing | .finished => False

/-- The status is changed by this process alone. -/
def Owns : Role → Prop
  | .claimed | .refused | .released | .worker _ | .installing _ | .finishing | .finished => True
  | .idle | .locked | .ready | .cleared => False

def IsWorker : Role → Prop
  | .worker _ | .installing _ | .finishing | .finished => True
  | _ => False

end Role

/-- The request `pid` has moved the status from `inspected` to `queued` with the lock in hand. -/
def ClaimedBy (pid : ℕ) (history : List SideloadEvent) : Prop :=
  ∃ before status, (⟨pid, .install, before, .renameStatus status, ()⟩ : SideloadEvent) ∈ history ∧
    status.state = .queued ∧ before.state = some .inspected ∧ before.lock = some pid

/-- The worker of the request `pid` could not be launched. -/
def RefusedTo (pid : ℕ) (history : List SideloadEvent) : Prop :=
  ∃ before error, (⟨pid, .install, before, .launchWorker, .error error⟩ : SideloadEvent) ∈ history

/-- What the role knows, if the process `pid` plays it. -/
def Role.Knows (pid : ℕ) (files : SideloadFiles) (history : List SideloadEvent) :
    Role → Prop
  | .idle => True
  | .locked => files.lock = some pid
  | .ready => files.lock = some pid ∧ files.state = some .inspected
  | .cleared => files.lock = some pid ∧ files.state = none
  | .claimed => files.lock = some pid ∧ files.state = some .queued ∧ ClaimedBy pid history
  | .refused => files.lock = some pid ∧ files.state = some .queued ∧ RefusedTo pid history
  | .released => files.state = some .queued ∧ RefusedTo pid history
  | .worker claimant => files.lock = some claimant ∧ files.state = some .queued
  | .installing claimant => files.lock = some claimant ∧ files.state = some .installing
  | .finishing => files.state = some .installing
  | .finished => files.state = some .installed ∨ files.state = some .failed

/-! ### The discipline -/

/-- Reading is free; what changes the files takes a role. -/
def Role.Allows (kind : SideloadTask) : Role → SideloadOp → Prop
  | .idle, .createLock => True
  | .locked, .removeLock | .ready, .removeLock | .cleared, .removeLock | .refused, .removeLock
  | .installing _, .removeLock => True
  | .ready, .removeArtifact | .ready, .removeStatus => kind = .discard
  | .ready, .renameStatus status => kind = .install ∧ status.state = .queued
  | .claimed, .launchWorker => kind = .install
  | .released, .renameStatus status => status.state = .inspected
  | .worker _, .renameStatus status => status.state = .installing
  | .installing _, .removeArtifact => True
  | .finishing, .renameStatus status => status.state = .installed ∨ status.state = .failed
  | _, .inspectArtifact | _, .readStatus | _, .secureStatus | _, .clock | _, .install => True
  | _, _ => False

/-- The role after an operation that changes it. -/
def Role.Turns (r : Role) : (op : SideloadOp) → op.Answer → Role → Prop
  | .createLock, created, r' => r' = if created then .locked else .idle
  | .removeLock, _, r' =>
    r' = match r with
      | .refused => .released
      | .installing _ => .finishing
      | _ => .idle
  | .readStatus, status, r' =>
    r' = if r = .locked ∧ status.map ApkStatus.state = some .inspected then .ready else r
  | .renameStatus _, _, r' =>
    r' = match r with
      | .ready => .claimed
      | .worker claimant => .installing claimant
      | .finishing => .finished
      | _ => .idle
  | .secureStatus, secured, r' => r' = r ∧ (r = .claimed → secured = true)
  | .removeStatus, _, r' => r' = .cleared
  | .launchWorker, .ok _, r' => r' = .idle
  | .launchWorker, .error _, r' => r' = .refused
  | .inspectArtifact, _, r' | .removeArtifact, _, r' | .clock, _, r' | .install, _, r' => r' = r

def discipline : Discipline SideloadTask SideloadOp SideloadOp.Answer Role where
  Plays kind r := kind = .worker ↔ r.IsWorker
  Rests _ _ := True
  Allows kind := Role.Allows kind
  Turns := Role.Turns

/-! ### The texts keep to the roles -/

section Texts

variable {directory ticket : String} {kind : SideloadTask} {r r' : Role}

/-- Writing a status takes the role that may rename, and leads where that leads. -/
theorem writeApkInstallStatus_follows {state : ApkState} {detail : String}
    {Q : Role → Except String Unit → Prop}
    (hallows : ∀ status, status.state = state → r.Allows kind (.renameStatus status))
    (hturns : ∀ status u r'', r.Turns (.renameStatus status) u r'' → r'' = r')
    (hrefused : ∀ error, Q r (.error error)) (hwritten : Q r' (.ok ()))
    (hfailed : r' ≠ .claimed → ∀ error, Q r' (.error error)) :
    Follows discipline kind Q (writeApkInstallStatus directory ticket state detail) r := by
  refine .call (by cases r <;> trivial) fun updatedAtUnixMs r₁ hr₁ => ?_
  obtain rfl : r₁ = r := hr₁
  refine .ite (fun _ => follows_pure.mpr (hrefused _)) fun _ => .call (hallows _ rfl) fun u r₂ hr₂ => ?_
  obtain rfl := hturns _ u r₂ hr₂
  refine .call (by cases r₂ <;> trivial) fun secured r₃ hr₃ => ?_
  obtain ⟨rfl, hsecured⟩ : r₃ = r₂ ∧ (r₂ = .claimed → secured = true) := hr₃
  exact .ite (fun _ => follows_pure.mpr hwritten) fun hne =>
    follows_pure.mpr (hfailed (fun hclaimed => hne (hsecured hclaimed)) _)

/-- The claim ends with the package, or with the lock alone. -/
theorem claimLocked_follows : Follows discipline .install (fun r result => match result with
    | .ok _ => r = .claimed
    | .error _ => r = .locked ∨ r = .ready) (claimLocked directory ticket) .locked := by
  refine .call trivial fun present r₁ hr₁ => ?_
  obtain rfl : r₁ = .locked := hr₁
  refine .ite (fun _ => .bind (.call trivial fun status r₂ hr₂ => ?_)) fun _ =>
    follows_pure.mpr (.inl rfl)
  obtain rfl : r₂ = if Role.locked = .locked ∧ status.map ApkStatus.state = some .inspected
    then .ready else .locked := hr₂
  cases status with
  | none => exact follows_pure.mpr (follows_pure.mpr (.inl rfl))
  | some status =>
    refine follows_pure.mpr (.ite (fun hstate => ?_) fun hstate => follows_pure.mpr ?_)
    · simp only [hstate, Option.map_some, and_self, if_true]
      exact writeApkInstallStatus_follows (fun status h => ⟨rfl, h⟩) (fun _ _ _ h => h)
        (fun _ => .inr rfl) rfl fun h => absurd rfl h
    · exact .inl (by simp [hstate])

theorem claimApkInstall_follows : Follows discipline .install (fun r result => match result with
    | .ok _ => r = .claimed
    | .error _ => True) (claimApkInstall directory ticket) .idle := by
  refine .call trivial fun created r₁ hr₁ => ?_
  obtain rfl : r₁ = if created then .locked else .idle := hr₁
  refine .ite (fun hcreated => ?_) fun _ => follows_pure.mpr trivial
  rw [if_pos hcreated]
  refine .bind (claimLocked_follows.mono fun r result hr => ?_)
  cases result with
  | ok u => exact follows_pure.mpr hr
  | error error =>
    refine .call ?_ fun _ _ _ => follows_pure.mpr trivial
    rcases hr with rfl | rfl <;> trivial

theorem handleApkInstall_follows : Follows discipline .install (fun _ _ => True)
    (handleApkInstall directory ticket) .idle := by
  refine .bind (.bind (claimApkInstall_follows.mono fun r result hr => ?_))
  cases result with
  | error error => exact follows_pure.mpr (follows_pure.mpr trivial)
  | ok u =>
    obtain rfl : r = .claimed := hr
    refine .call rfl fun launched r₁ hr₁ => ?_
    cases launched with
    | ok u => exact follows_pure.mpr (follows_pure.mpr trivial)
    | error error =>
      obtain rfl : r₁ = .refused := hr₁
      refine .call trivial fun removed r₂ hr₂ => ?_
      obtain rfl : r₂ = .released := hr₂
      refine .bind (writeApkInstallStatus_follows (fun _ h => h) (fun _ _ _ h => h) (fun _ => ?_) ?_
        fun _ _ => ?_)
      all_goals exact follows_pure.mpr (follows_pure.mpr trivial)

/-- The discarding ends with the lock. -/
theorem discardLocked_follows : Follows discipline .discard (fun r _ => r = .locked ∨ r = .ready ∨
    r = .cleared) (discardLocked ticket) .locked := by
  refine .bind (.call trivial fun status r₁ hr₁ => ?_)
  obtain rfl : r₁ = if Role.locked = .locked ∧ status.map ApkStatus.state = some .inspected
    then .ready else .locked := hr₁
  cases status with
  | none => exact follows_pure.mpr (follows_pure.mpr (.inl rfl))
  | some status =>
    refine follows_pure.mpr (.ite (fun hbusy => follows_pure.mpr ?_) fun _ => .ite (fun hstate =>
      follows_pure.mpr ?_) fun hstate => ?_)
    · exact .inl (if_neg fun h => by rcases hbusy with hbusy | hbusy <;> simp [hbusy] at h)
    · exact .inl (if_neg fun h => hstate (Option.some.inj h.2))
    rw [not_not] at hstate
    rw [if_pos ⟨rfl, congrArg some hstate⟩]
    refine .call rfl fun removed r₂ hr₂ => ?_
    obtain rfl : r₂ = .ready := hr₂
    refine .ite (fun _ => .call rfl fun removed r₃ hr₃ => ?_) fun _ => follows_pure.mpr (.inr (.inl rfl))
    obtain rfl : r₃ = .cleared := hr₃
    exact .ite (fun _ => follows_pure.mpr (.inr (.inr rfl))) fun _ => follows_pure.mpr (.inr (.inr rfl))

theorem handleApkDiscard_follows : Follows discipline .discard (fun _ _ => True)
    (handleApkDiscard ticket) .idle := by
  refine .call trivial fun created r₁ hr₁ => ?_
  obtain rfl : r₁ = if created then .locked else .idle := hr₁
  refine .ite (fun hcreated => ?_) fun _ => follows_pure.mpr trivial
  rw [if_pos hcreated]
  refine .bind (discardLocked_follows.mono fun r result hr => .call ?_ fun unlocked r₂ _ => ?_)
  · rcases hr with rfl | rfl | rfl <;> trivial
  · cases result with
    | error error => exact follows_pure.mpr trivial
    | ok u => exact .ite (fun _ => follows_pure.mpr trivial) fun _ => follows_pure.mpr trivial

theorem handleApkStatus_follows : Follows discipline .status (fun _ _ => True)
    (handleApkStatus ticket) .idle := by
  refine .bind (.call trivial fun status r₁ _ => ?_)
  cases status with
  | none => exact follows_pure.mpr (follows_pure.mpr trivial)
  | some status => exact follows_pure.mpr (follows_pure.mpr trivial)

theorem runApkInstallWorkerWith_follows (claimant : ℕ) : Follows discipline .worker
    (fun _ _ => True) (runApkInstallWorkerWith directory ticket) (.worker claimant) := by
  refine .call trivial fun present r₁ hr₁ => ?_
  obtain rfl : r₁ = .worker claimant := hr₁
  refine .ite (fun _ => ?_) fun _ => follows_pure.mpr trivial
  refine .bind (writeApkInstallStatus_follows (fun _ h => h) (fun _ _ _ h => h)
    (fun _ => follows_pure.mpr trivial) ?_ fun _ _ => follows_pure.mpr trivial)
  refine .call trivial fun result r₂ hr₂ => ?_
  obtain rfl : r₂ = .installing claimant := hr₂
  refine .call trivial fun _ r₃ hr₃ => ?_
  obtain rfl : r₃ = .installing claimant := hr₃
  refine .call trivial fun _ r₄ hr₄ => ?_
  obtain rfl : r₄ = .finishing := hr₄
  cases result with
  | ok u =>
    exact .bind (writeApkInstallStatus_follows (fun _ h => .inl h) (fun _ _ _ h => h)
      (fun _ => follows_pure.mpr trivial) (follows_pure.mpr trivial) fun _ _ => follows_pure.mpr trivial)
  | error detail =>
    exact .bind (writeApkInstallStatus_follows (fun _ h => .inr h) (fun _ _ _ h => h)
      (fun _ => follows_pure.mpr trivial) (follows_pure.mpr trivial) fun _ _ => follows_pure.mpr trivial)

end Texts

/-! ### The invariant -/

/-- How the status may change, when the process `pid` changes it. -/
inductive StatusMoves (pid : ℕ) (history : List SideloadEvent) : Option ApkState → Option ApkState → Prop
  | queue : StatusMoves pid history (some .inspected) (some .queued)
  | install : StatusMoves pid history (some .queued) (some .installing)
  | installed : StatusMoves pid history (some .installing) (some .installed)
  | failed : StatusMoves pid history (some .installing) (some .failed)
  | giveBack (refused : RefusedTo pid history) :
      StatusMoves pid history (some .queued) (some .inspected)
  | discard : StatusMoves pid history (some .inspected) none

/-- What is true of an event, after the events `earlier`. -/
structure Lawful (event : SideloadEvent) (earlier : List SideloadEvent) : Prop where
  launch : event.op = .launchWorker → event.kind = .install ∧ ClaimedBy event.pid earlier ∧
    event.before.lock = some event.pid ∧ event.before.state = some .queued
  discard : event.kind = .discard → event.op = .removeArtifact ∨ event.op = .removeStatus →
    event.before.state = some .inspected
  rename : ∀ status, event.op = .renameStatus status →
    StatusMoves event.pid earlier event.before.state (some status.state)
  remove : event.op = .removeStatus → event.before.state = some .inspected

structure Invariant (files : SideloadFiles) (history : List SideloadEvent)
    (roles : ℕ → Option Role) : Prop where
  knows : ∀ pid r, roles pid = some r → r.Knows pid files history
  holder : ∀ p q r r', roles p = some r → roles q = some r' → r.Holds → r'.Holds → p = q
  owner : ∀ p q r r', roles p = some r → roles q = some r' → r.Owns → r'.Owns → p = q
  past : Always Lawful history

section Invariant

variable {files files' : SideloadFiles} {history : List SideloadEvent} {event : SideloadEvent}
  {roles : ℕ → Option Role} {pid q : ℕ} {r r' : Role}

namespace Role

/-- Knowledge is kept while the status, and the lock of a holder, stay as they are. -/
theorem Knows.keep (h : r.Knows q files history) (hstate : files'.state = files.state)
    (hlock : r.Holds → files'.lock = files.lock) : r.Knows q files' (event :: history) := by
  have hclaimed : ClaimedBy q history → ClaimedBy q (event :: history) :=
    fun ⟨before, status, hmem, hrest⟩ => ⟨before, status, List.mem_cons_of_mem _ hmem, hrest⟩
  have hrefused : RefusedTo q history → RefusedTo q (event :: history) :=
    fun ⟨before, error, hmem⟩ => ⟨before, error, List.mem_cons_of_mem _ hmem⟩
  cases r with
  | idle => trivial
  | locked => exact (hlock trivial).trans h
  | ready | cleared | worker | installing =>
    exact ⟨(hlock trivial).trans h.1, hstate.trans h.2⟩
  | claimed => exact ⟨(hlock trivial).trans h.1, hstate.trans h.2.1, hclaimed h.2.2⟩
  | refused => exact ⟨(hlock trivial).trans h.1, hstate.trans h.2.1, hrefused h.2.2⟩
  | released => exact ⟨hstate.trans h.1, hrefused h.2⟩
  | finishing => exact hstate.trans h
  | finished => exact h.imp hstate.trans hstate.trans

theorem Knows.lock_ne_none (h : r.Knows q files history) (hr : r.Holds) : files.lock ≠ none := by
  cases r with
  | locked => rw [show files.lock = _ from h]; exact Option.some_ne_none _
  | ready | cleared | claimed | refused | worker | installing =>
    rw [h.1]; exact Option.some_ne_none _
  | idle | released | finishing | finished => exact hr.elim

/-- An owner sees its package in use. -/
theorem Knows.state_of_owns (h : r.Knows q files history) (hr : r.Owns) :
    files.state ≠ some .inspected ∧ files.state ≠ none := by
  cases r with
  | claimed | refused => simp [h.2.1]
  | worker | installing => simp [h.2]
  | released => simp [h.1]
  | finishing => simp [show files.state = _ from h]
  | finished => rcases h with h | h <;> simp [h]
  | idle | locked | ready | cleared => exact hr.elim

/-- Whoever does not own a package in use knows nothing about its status. -/
theorem Knows.of_not_owns (h : r.Knows q files history) (hr : ¬ r.Owns)
    (hstate : files.state ≠ some .inspected ∧ files.state ≠ none) : r = .idle ∨ r = .locked := by
  cases r with
  | idle => exact .inl rfl
  | locked => exact .inr rfl
  | ready => exact absurd h.2 hstate.1
  | cleared => exact absurd h.2 hstate.2
  | claimed | refused | released | worker | installing | finishing | finished => exact (hr trivial).elim

/-- Whoever does not hold the lock of an inspected package knows nothing. -/
theorem Knows.of_not_holds (h : r.Knows q files history) (hr : ¬ r.Holds)
    (hstate : files.state = some .inspected) : r = .idle := by
  by_cases howns : r.Owns
  · exact absurd hstate (h.state_of_owns howns).1
  · cases r with
    | idle => rfl
    | locked | ready | cleared => exact (hr trivial).elim
    | claimed | refused | released | worker | installing | finishing | finished =>
      exact (howns trivial).elim

end Role

namespace Invariant

/-- The process `pid` takes the role `r'`. -/
theorem recast {history' : List SideloadEvent} (h : Invariant files history roles)
    (hpast : Always Lawful history') (hknows : r'.Knows pid files' history')
    (hothers : ∀ q r, q ≠ pid → roles q = some r → r.Knows q files' history')
    (hholds : r'.Holds → ∀ q r, q ≠ pid → roles q = some r → ¬ r.Holds)
    (howns : r'.Owns → ∀ q r, q ≠ pid → roles q = some r → ¬ r.Owns) :
    Invariant files' history' (Function.update roles pid (some r')) := by
  have hone (P : Role → Prop) (hold : ∀ p q r r', roles p = some r → roles q = some r' →
      P r → P r' → p = q) (hnew : P r' → ∀ q r, q ≠ pid → roles q = some r → ¬ P r) (p q : ℕ)
      (r₁ r₂ : Role) (hr₁ : Function.update roles pid (some r') p = some r₁)
      (hr₂ : Function.update roles pid (some r') q = some r₂) (h₁ : P r₁) (h₂ : P r₂) : p = q := by
    rcases eq_or_ne p pid with rfl | hp <;> rcases eq_or_ne q p with rfl | hq
    · rfl
    · rw [Function.update_self, Option.some.injEq] at hr₁
      subst hr₁
      exact absurd h₂ (hnew h₁ q r₂ hq (by rwa [Function.update_of_ne hq] at hr₂))
    · rfl
    · rw [Function.update_of_ne hp] at hr₁
      rcases eq_or_ne q pid with rfl | hq'
      · rw [Function.update_self, Option.some.injEq] at hr₂
        subst hr₂
        exact absurd h₁ (hnew h₂ p r₁ hp hr₁)
      · exact hold p q r₁ r₂ hr₁ (by rwa [Function.update_of_ne hq'] at hr₂) h₁ h₂
  refine ⟨fun q r hr => ?_, hone _ h.holder hholds, hone _ h.owner howns, hpast⟩
  rcases eq_or_ne q pid with rfl | hne
  · rw [Function.update_self, Option.some.injEq] at hr
    exact hr ▸ hknows
  · exact hothers q r hne (by rwa [Function.update_of_ne hne] at hr)

theorem others_not_hold (h : Invariant files history roles) (hr : roles pid = some r)
    (hholds : r.Holds) : ∀ q r', q ≠ pid → roles q = some r' → ¬ r'.Holds :=
  fun q r' hne hr' hholds' => hne (h.holder q pid r' r hr' hr hholds' hholds)

theorem others_not_own (h : Invariant files history roles) (hr : roles pid = some r)
    (howns : r.Owns) : ∀ q r', q ≠ pid → roles q = some r' → ¬ r'.Owns :=
  fun q r' hne hr' howns' => hne (h.owner q pid r' r hr' hr howns' howns)

/-- An operation that changes neither the lock nor the status. -/
theorem look (h : Invariant files history roles) (hr : roles pid = some r)
    (hlawful : Lawful event history) (hstate : files'.state = files.state)
    (hlock : files'.lock = files.lock) (hknows : r'.Knows pid files' (event :: history))
    (hholds : r'.Holds → r.Holds) (howns : r'.Owns → r.Owns) :
    Invariant files' (event :: history) (Function.update roles pid (some r')) :=
  h.recast ⟨hlawful, h.past⟩ hknows (fun q r'' _ hq => (h.knows q r'' hq).keep hstate fun _ => hlock)
    (fun h' => h.others_not_hold hr (hholds h')) fun h' => h.others_not_own hr (howns h')

/-- The holder removes the lock. -/
theorem unlock (h : Invariant files history roles) (hr : roles pid = some r)
    (hlawful : Lawful event history) (hheld : r.Holds)
    (hknows : r'.Knows pid { files with lock := none } (event :: history)) (hholds : ¬ r'.Holds)
    (howns : r'.Owns → r.Owns) : Invariant { files with lock := none } (event :: history)
      (Function.update roles pid (some r')) :=
  h.recast ⟨hlawful, h.past⟩ hknows
    (fun q r'' hne hq => (h.knows q r'' hq).keep rfl fun hq' =>
      absurd hq' (h.others_not_hold hr hheld q r'' hne hq))
    (fun h' => absurd h' hholds) fun h' => h.others_not_own hr (howns h')

/-- The owner moves the status on. -/
theorem moveOn (h : Invariant files history roles) (hr : roles pid = some r)
    (hlawful : Lawful event history) (howner : r.Owns) {status : ApkStatus}
    (hknows : r'.Knows pid { files with status := some status } (event :: history))
    (hholds : r'.Holds → r.Holds) :
    Invariant { files with status := some status } (event :: history)
      (Function.update roles pid (some r')) := by
  refine h.recast ⟨hlawful, h.past⟩ hknows (fun q r'' hne hq => ?_)
    (fun h' => h.others_not_hold hr (hholds h')) fun _ => h.others_not_own hr howner
  have hq' := h.knows q r'' hq
  rcases hq'.of_not_owns (h.others_not_own hr howner q r'' hne hq)
    ((h.knows pid r hr).state_of_owns howner) with rfl | rfl
  · trivial
  · exact hq'

/-- The holder changes the status of an inspected package. -/
theorem takeOver (h : Invariant files history roles) (hr : roles pid = some r)
    (hlawful : Lawful event history) (hheld : r.Holds) (hstate : files.state = some .inspected)
    {status : Option ApkStatus}
    (hknows : r'.Knows pid { files with status := status } (event :: history)) :
    Invariant { files with status := status } (event :: history)
      (Function.update roles pid (some r')) := by
  have hidle : ∀ q r'', q ≠ pid → roles q = some r'' → r'' = .idle := fun q r'' hne hq =>
    (h.knows q r'' hq).of_not_holds (h.others_not_hold hr hheld q r'' hne hq) hstate
  refine h.recast ⟨hlawful, h.past⟩ hknows (fun q r'' hne hq => ?_) (fun _ q r'' hne hq => ?_)
    fun _ q r'' hne hq => ?_
  all_goals
    obtain rfl := hidle q r'' hne hq
    first | trivial | exact id

end Invariant

theorem lawful_of_quiet {event : SideloadEvent} (hlaunch : event.op ≠ .launchWorker)
    (hartifact : event.op ≠ .removeArtifact) (hstatus : event.op ≠ .removeStatus)
    (hrename : ∀ status, event.op ≠ .renameStatus status) : Lawful event history :=
  ⟨fun h => absurd h hlaunch, fun _ h => absurd h (by simp [hartifact, hstatus]),
    fun status h => absurd h (hrename status), fun h => absurd h hstatus⟩

/-- After `op` the process has a role for which the invariant holds. -/
def TurnKept (files files' : SideloadFiles) (history : List SideloadEvent)
    (roles : ℕ → Option Role) (pid : ℕ) (kind : SideloadTask) (r : Role)
    (op : SideloadOp) (answer : op.Answer) : Prop :=
  ∃ r', r.Turns op answer r' ∧ (kind = .worker ↔ r'.IsWorker) ∧
    Invariant files' (⟨pid, kind, files, op, answer⟩ :: history)
      (Function.update roles pid (some r'))

section Operations

variable {kind : SideloadTask} (h : Invariant files history roles) (hr : roles pid = some r)
  (hplays : kind = .worker ↔ r.IsWorker)

include h hr hplays

/-- An operation that changes nothing. -/
theorem quiet_kept {op : SideloadOp} {answer : op.Answer} (hturns : r.Turns op answer r)
    (hlawful : Lawful ⟨pid, kind, files, op, answer⟩ history) :
    TurnKept files files history roles pid kind r op answer :=
  ⟨r, hturns, hplays, h.look hr hlawful rfl rfl ((h.knows pid r hr).keep rfl fun _ => rfl) id id⟩

theorem look_kept {op : SideloadOp} {answer : op.Answer} (hturns : r.Turns op answer r)
    (hfiles : files' = files) (hlaunch : op ≠ .launchWorker) (hartifact : op ≠ .removeArtifact)
    (hstatus : op ≠ .removeStatus) (hrename : ∀ status, op ≠ .renameStatus status) :
    TurnKept files files' history roles pid kind r op answer :=
  hfiles ▸ quiet_kept h hr hplays hturns (lawful_of_quiet hlaunch hartifact hstatus hrename)

/-- Launching is lawful for the request that owns the package. -/
theorem lawful_launch (hallows : r.Allows kind .launchWorker) (answer : Except String Unit) :
    r = .claimed ∧ Lawful ⟨pid, kind, files, .launchWorker, answer⟩ history := by
  have hknows := h.knows pid r hr
  cases r with
  | claimed =>
    exact ⟨rfl, fun _ => ⟨hallows, hknows.2.2, hknows.1, hknows.2.1⟩, by simp, by simp, by simp⟩
  | idle | locked | ready | cleared | refused | released | worker | installing | finishing
  | finished => exact hallows.elim

theorem refused_kept {error : String} (hallows : r.Allows kind .launchWorker) :
    TurnKept files files history roles pid kind r .launchWorker (.error error) := by
  obtain ⟨rfl, hlawful⟩ := lawful_launch h hr hplays hallows (.error error)
  obtain ⟨hlock, hstate, -⟩ := h.knows pid _ hr
  obtain rfl : kind = .install := hallows
  exact ⟨.refused, rfl, hplays, h.look hr hlawful rfl rfl
    ⟨hlock, hstate, files, error, List.mem_cons_self⟩ id id⟩

theorem createLock_kept {created : Bool} (hallows : r.Allows kind .createLock)
    (hexec : SideloadOp.createLock.Exec pid files created files') :
    TurnKept files files' history roles pid kind r .createLock created := by
  have hlawful : Lawful ⟨pid, kind, files, .createLock, created⟩ history :=
    lawful_of_quiet nofun nofun nofun nofun
  obtain rfl : r = .idle := by
    cases r <;> first | rfl | exact hallows.elim
  obtain ⟨hcreated, hfiles⟩ := hexec
  refine ⟨_, rfl, ?_⟩
  cases hlock : files.lock with
  | some claimant =>
    obtain rfl : created = false := hcreated.trans (by rw [hlock]; rfl)
    obtain rfl : files = files' := by simpa [hlock] using hfiles.symm
    exact ⟨hplays, h.look hr hlawful rfl rfl trivial id id⟩
  | none =>
    have hnone : ∀ q r'', roles q = some r'' → ¬ r''.Holds := fun q r'' hq hholds =>
      (h.knows q r'' hq).lock_ne_none hholds hlock
    obtain rfl : created = true := hcreated.trans (by rw [hlock]; rfl)
    obtain rfl : files' = { files with lock := some pid } := by simpa [hlock] using hfiles
    refine ⟨hplays, h.recast ⟨hlawful, h.past⟩ rfl (fun q r'' _ hq => ?_) (fun _ q r'' _ => hnone q r'')
      fun howns => howns.elim⟩
    exact (h.knows q r'' hq).keep rfl fun hholds => absurd hholds (hnone q r'' hq)

theorem removeLock_kept {removed : Bool} (hallows : r.Allows kind .removeLock)
    (hexec : SideloadOp.removeLock.Exec pid files removed files') :
    TurnKept files files' history roles pid kind r .removeLock removed := by
  have hknows := h.knows pid r hr
  have hlawful : Lawful ⟨pid, kind, files, .removeLock, removed⟩ history :=
    lawful_of_quiet nofun nofun nofun nofun
  obtain ⟨-, rfl⟩ := hexec
  refine ⟨_, rfl, ?_⟩
  cases r with
  | locked | ready | cleared => exact ⟨hplays, h.unlock hr hlawful trivial trivial id False.elim⟩
  | refused =>
    obtain ⟨-, hstate, before, error, hmem⟩ := hknows
    exact ⟨hplays, h.unlock hr hlawful trivial
      ⟨hstate, before, error, List.mem_cons_of_mem _ hmem⟩ id fun _ => trivial⟩
  | installing claimant => exact ⟨hplays, h.unlock hr hlawful trivial hknows.2 id fun _ => trivial⟩
  | idle | claimed | released | worker | finishing | finished => exact hallows.elim

theorem removeArtifact_kept {removed : Bool} (hallows : r.Allows kind .removeArtifact)
    (hexec : SideloadOp.removeArtifact.Exec pid files removed files') :
    TurnKept files files' history roles pid kind r .removeArtifact removed := by
  have hknows := h.knows pid r hr
  obtain ⟨-, rfl⟩ := hexec
  refine ⟨r, rfl, hplays, h.look hr ⟨nofun, fun hkind _ => ?_, nofun, nofun⟩ rfl rfl
    (hknows.keep rfl fun _ => rfl) id id⟩
  cases r with
  | ready => exact hknows.2
  | installing claimant =>
    obtain rfl : kind = .discard := hkind
    cases hplays.mpr trivial
  | idle | locked | cleared | claimed | refused | released | worker | finishing | finished =>
    exact hallows.elim

theorem readStatus_kept {status : Option ApkStatus}
    (hexec : SideloadOp.readStatus.Exec pid files status files') :
    TurnKept files files' history roles pid kind r .readStatus status := by
  have hlawful : Lawful ⟨pid, kind, files, .readStatus, status⟩ history :=
    lawful_of_quiet nofun nofun nofun nofun
  obtain ⟨rfl, hfiles⟩ := hexec
  obtain rfl := hfiles.symm
  by_cases hready : r = .locked ∧ files.status.map ApkStatus.state = some .inspected
  · obtain ⟨rfl, hstate⟩ := hready
    exact ⟨.ready, (if_pos ⟨rfl, hstate⟩).symm, hplays,
      h.look hr hlawful rfl rfl ⟨h.knows pid _ hr, hstate⟩ id id⟩
  · exact quiet_kept h hr hplays (if_neg hready).symm hlawful

theorem secureStatus_kept {secured : Bool}
    (hexec : SideloadOp.secureStatus.Exec pid files secured files') :
    TurnKept files files' history roles pid kind r .secureStatus secured := by
  obtain ⟨rfl, rfl⟩ := hexec
  refine quiet_kept h hr hplays ⟨rfl, ?_⟩ (lawful_of_quiet nofun nofun nofun nofun)
  rintro rfl
  obtain ⟨-, hstate, -⟩ := h.knows pid _ hr
  rw [SideloadFiles.state, Option.map_eq_some_iff] at hstate
  obtain ⟨status, hstatus, -⟩ := hstate
  simp [hstatus]

theorem removeStatus_kept {removed : Bool} (hallows : r.Allows kind .removeStatus)
    (hexec : SideloadOp.removeStatus.Exec pid files removed files') :
    TurnKept files files' history roles pid kind r .removeStatus removed := by
  have hknows := h.knows pid r hr
  obtain ⟨-, rfl⟩ := hexec
  cases r with
  | ready =>
    exact ⟨.cleared, rfl, hplays, h.takeOver hr
      ⟨by simp, fun _ _ => hknows.2, by simp, fun _ => hknows.2⟩ trivial hknows.2 ⟨hknows.1, rfl⟩⟩
  | idle | locked | cleared | claimed | refused | released | worker | installing | finishing
  | finished => exact hallows.elim

theorem renameStatus_kept {status : ApkStatus} (hallows : r.Allows kind (.renameStatus status))
    (hexec : (SideloadOp.renameStatus status).Exec pid files () files') :
    TurnKept files files' history roles pid kind r (.renameStatus status) () := by
  have hknows := h.knows pid r hr
  have hlawful (hmoves : StatusMoves pid history files.state (some status.state)) :
      Lawful ⟨pid, kind, files, .renameStatus status, ()⟩ history := by
    refine ⟨by simp, by simp, fun status' heq => ?_, by simp⟩
    obtain rfl : status = status' := SideloadOp.renameStatus.inj heq
    exact hmoves
  obtain rfl := hexec
  refine ⟨_, rfl, ?_⟩
  cases r with
  | ready =>
    obtain ⟨rfl, hqueued⟩ := hallows
    obtain ⟨hlock, hstate⟩ := hknows
    refine ⟨hplays, h.takeOver hr (hlawful (by rw [hstate, hqueued]; exact .queue)) trivial hstate
      ⟨hlock, congrArg some hqueued, ?_⟩⟩
    exact ⟨files, status, List.mem_cons_self, hqueued, hstate, hlock⟩
  | released =>
    have hinspected : status.state = .inspected := hallows
    obtain ⟨hstate, hrefused⟩ := hknows
    exact ⟨hplays, h.moveOn hr (hlawful (by rw [hstate, hinspected]; exact .giveBack hrefused)) trivial
      trivial id⟩
  | worker claimant =>
    have hinstalling : status.state = .installing := hallows
    exact ⟨hplays, h.moveOn hr (hlawful (by rw [hknows.2, hinstalling]; exact .install)) trivial
      ⟨hknows.1, congrArg some hinstalling⟩ id⟩
  | finishing =>
    have hstate : files.state = some .installing := hknows
    refine ⟨hplays, h.moveOn hr (hlawful ?_) trivial (hallows.imp (congrArg some) (congrArg some)) id⟩
    rcases hallows with hfinal | hfinal
    · rw [hstate, hfinal]
      exact .installed
    · rw [hstate, hfinal]
      exact .failed
  | idle | locked | cleared | claimed | refused | installing | finished => exact hallows.elim

end Operations

/-- The invariant of all processes. -/
theorem sideload_kept (directory ticket : String) :
    (sideload directory ticket).Kept discipline (fun _ _ _ => True) Invariant where
  perform {files history roles pid kind r op answer files'} h hr hplays hallows hexec halone := by
    cases op with
    | createLock => exact createLock_kept h hr hplays hallows hexec
    | removeLock => exact removeLock_kept h hr hplays hallows hexec
    | removeArtifact => exact removeArtifact_kept h hr hplays hallows hexec
    | readStatus => exact readStatus_kept h hr hplays hexec
    | renameStatus status => exact renameStatus_kept h hr hplays hallows hexec
    | secureStatus => exact secureStatus_kept h hr hplays hexec
    | removeStatus => exact removeStatus_kept h hr hplays hallows hexec
    | inspectArtifact =>
      have hkept : TurnKept files files' history roles pid kind r .inspectArtifact answer :=
        look_kept h hr hplays rfl hexec.2 nofun nofun nofun nofun
      exact hkept
    | clock =>
      have hkept : TurnKept files files' history roles pid kind r .clock answer :=
        look_kept h hr hplays rfl hexec nofun nofun nofun nofun
      exact hkept
    | install =>
      have hkept : TurnKept files files' history roles pid kind r .install answer :=
        look_kept h hr hplays rfl hexec nofun nofun nofun nofun
      exact hkept
    | launchWorker =>
      cases answer with
      | ok u => cases halone
      | error error =>
        obtain rfl := hexec
        exact refused_kept h hr hplays hallows
  start {files history roles pid kind r op answer files' child process} h hr hplays hallows hexec
      hstarts hchild := by
    cases op with
    | launchWorker =>
      cases answer with
      | error error => cases hstarts
      | ok u =>
        obtain rfl := hexec
        obtain rfl : _ = process := Option.some.inj hstarts
        obtain ⟨rfl, hlawful⟩ := lawful_launch h hr hplays hallows (.ok u)
        have hknows := h.knows pid _ hr
        obtain rfl : kind = .install := hallows
        have hleft : Invariant files' (_ :: history) (Function.update roles pid (some .idle)) :=
          h.look hr hlawful rfl rfl trivial False.elim False.elim
        refine ⟨.idle, .worker pid, rfl, by simp [discipline, Role.IsWorker],
          ⟨by simp [discipline, Role.IsWorker], ?_⟩, ?_⟩
        · exact runApkInstallWorkerWith_follows pid
        · have hlone (P : Role → Prop) (hidle : ¬ P .idle)
              (hrest : ∀ q r, q ≠ pid → roles q = some r → ¬ P r) (q : ℕ) (r : Role)
              (hq : Function.update roles pid (some .idle) q = some r) : ¬ P r := by
            rcases eq_or_ne q pid with rfl | hne
            · rw [Function.update_self, Option.some.injEq] at hq
              exact hq ▸ hidle
            · exact hrest q r hne (by rwa [Function.update_of_ne hne] at hq)
          exact hleft.recast hleft.past ⟨hknows.1, hknows.2.1⟩ (fun q r _ hq => hleft.knows q r hq)
            (fun _ q r _ hq => hlone _ id (h.others_not_hold hr trivial) q r hq)
            fun _ q r _ hq => hlone _ id (h.others_not_own hr trivial) q r hq
    | createLock | removeLock | inspectArtifact | removeArtifact | readStatus | renameStatus
    | secureStatus | removeStatus | clock | install => cases hstarts
  arrive {files history roles pid process} h hfree harrives := by
    refine ⟨.idle, ?_, h.recast h.past trivial (fun q r _ hq => h.knows q r hq) False.elim False.elim⟩
    rcases harrives with rfl | rfl | rfl
    · exact ⟨by simp [discipline, Role.IsWorker], handleApkInstall_follows⟩
    · exact ⟨by simp [discipline, Role.IsWorker], handleApkDiscard_follows⟩
    · exact ⟨by simp [discipline, Role.IsWorker], handleApkStatus_follows⟩
  die {files history roles pid kind r files'} h hr hplays hdies := by
    obtain rfl : files' = files := hdies
    exact ⟨r, hplays, trivial, by rwa [← hr, Function.update_eq_self]⟩
  drift _ hdrifts := hdrifts.elim

end Invariant

/-! ### Safety -/

/-- A worker that is not over. -/
def HasWorker (c : SideloadConfig) (pid : ℕ) : Prop :=
  ∃ op next, c.processes pid = some ⟨.worker, some (.perform op next)⟩

/-- The status stays, or it is moved by the process of the newest event. -/
def StatusStep (c c' : SideloadConfig) : Prop :=
  c'.shared.state = c.shared.state ∨ ∃ event, c'.history = event :: c.history ∧
    StatusMoves event.pid c.history c.shared.state c'.shared.state

theorem sideload_governed {directory ticket detail : String} {now : ℕ} {c : SideloadConfig}
    (hrun : (sideload directory ticket).Run (uploaded detail now) c) :
    c.Governed discipline (fun _ _ _ => True) Invariant := by
  refine (sideload_kept directory ticket).reachable ⟨fun _ => none, ?_, fun _ => .none⟩ hrun
  exact ⟨nofun, nofun, nofun, trivial⟩

/-- What was lawful explains how the status changed. -/
theorem statusStep {directory ticket detail : String} {now : ℕ} {c c' : SideloadConfig}
    (hrun : (sideload directory ticket).Run (uploaded detail now) c)
    (hstep : (sideload directory ticket).Step c c') : StatusStep c c' := by
  obtain ⟨roles, h, -⟩ := sideload_governed (hrun.tail hstep)
  have hpast := h.past
  have hmoves : ∀ {pid kind op answer files'}, SideloadOp.Exec pid c.shared op answer files' →
      Lawful ⟨pid, kind, c.shared, op, answer⟩ c.history → files'.state = c.shared.state ∨
        StatusMoves pid c.history c.shared.state files'.state := by
    intro pid kind op answer files' hexec hlawful
    cases op with
    | renameStatus status =>
      obtain rfl := hexec
      exact .inr (hlawful.rename status rfl)
    | removeStatus =>
      obtain ⟨-, rfl⟩ := hexec
      exact .inr (hlawful.remove rfl ▸ .discard)
    | createLock =>
      obtain ⟨-, rfl⟩ := hexec
      left
      split <;> rfl
    | removeLock | inspectArtifact | removeArtifact | readStatus | secureStatus =>
      obtain ⟨-, rfl⟩ := hexec
      exact .inl rfl
    | clock | launchWorker | install =>
      obtain rfl := hexec
      exact .inl rfl
  cases hstep with
  | perform running exec alone =>
    exact (hmoves exec hpast.1).imp_right fun h => ⟨_, rfl, h⟩
  | start running exec starts free =>
    exact (hmoves exec hpast.1).imp_right fun h => ⟨_, rfl, h⟩
  | arrive free arrives => exact .inl rfl
  | die running dies =>
    obtain rfl := dies
    exact .inl rfl
  | drift drifts => exact drifts.elim

/-- **Sideloading is safe**, whatever requests arrive, in whatever order the operations of all
processes are performed, and whoever is killed: there is one worker at most; a worker is
launched by a request that moved the status from `inspected` to `queued` with the lock in hand,
and that still has both; a discard removes neither the package nor the status while the package
is queued or installing; and the status moves forwards only, or back when the worker could not
be launched. -/
theorem sideload_is_safe {directory ticket detail : String} {now : ℕ} {c : SideloadConfig}
    (hrun : (sideload directory ticket).Run (uploaded detail now) c) :
    (∀ p q, HasWorker c p → HasWorker c q → p = q) ∧
    (∀ later event earlier, c.history = later ++ event :: earlier → event.op = .launchWorker →
      event.kind = .install ∧ ClaimedBy event.pid earlier ∧ event.before.lock = some event.pid ∧
        event.before.state = some .queued) ∧
    (∀ event ∈ c.history, event.kind = .discard →
      event.op = .removeArtifact ∨ event.op = .removeStatus →
        event.before.state ≠ some .queued ∧ event.before.state ≠ some .installing) ∧
    ∀ c', (sideload directory ticket).Step c c' → StatusStep c c' := by
  obtain ⟨roles, h, hcasts⟩ := sideload_governed hrun
  have hlawful := always_iff.mp h.past
  refine ⟨fun p q hp hq => ?_, fun later event earlier heq => (hlawful later event earlier heq).launch,
    fun event hmem hkind hop => ?_, fun c' hstep => statusStep hrun hstep⟩
  · have hworker : ∀ pid, HasWorker c pid → ∃ r, roles pid = some r ∧ r.Owns := by
      rintro pid ⟨op, next, hprocess⟩
      obtain ⟨r, hr, hplays, -⟩ := hcasts.role hprocess
      refine ⟨r, hr, ?_⟩
      have := hplays.mp rfl
      cases r <;> trivial
    obtain ⟨r, hr, howns⟩ := hworker p hp
    obtain ⟨r', hr', howns'⟩ := hworker q hq
    exact h.owner p q r r' hr hr' howns howns'
  · obtain ⟨later, earlier, heq⟩ := List.append_of_mem hmem
    rw [(hlawful later event earlier heq).discard hkind hop]
    decide

/-- A package is discarded. -/
theorem discard_is_safe : ∃ c, (sideload "/sideload" "5ca1ab1e").Run (uploaded "" 0) c ∧
    c.shared = ⟨none, none, false⟩ ∧ (∀ event ∈ c.history, event.kind = .discard →
      event.op = .removeArtifact ∨ event.op = .removeStatus →
        event.before.state ≠ some .queued ∧ event.before.state ≠ some .installing) := by
  have perform := @System.Step.perform _ _ _ _ _ (sideload "/sideload" "5ca1ab1e")
  have harrived : (sideload "/sideload" "5ca1ab1e").Run (uploaded "" 0) _ :=
    .single (@System.Step.arrive _ _ _ _ _ _ _ 0 _ rfl (.inr (.inl rfl)))
  have hlocked := harrived.tail (@perform _ 0 _ .createLock _ true _ rfl ⟨rfl, rfl⟩ rfl)
  have hread := hlocked.tail (@perform _ 0 _ .readStatus _ _ _ rfl ⟨rfl, rfl⟩ rfl)
  have hemptied := hread.tail (@perform _ 0 _ .removeArtifact _ true _ rfl ⟨rfl, rfl⟩ rfl)
  have hcleared := hemptied.tail (@perform _ 0 _ .removeStatus _ true _ rfl ⟨rfl, rfl⟩ rfl)
  have hrun := hcleared.tail (@perform _ 0 _ .removeLock _ true _ rfl ⟨rfl, rfl⟩ rfl)
  exact ⟨_, hrun, rfl, (sideload_is_safe hrun).2.2.1⟩

end Wroid.Sideload
