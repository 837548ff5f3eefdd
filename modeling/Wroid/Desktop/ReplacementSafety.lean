import Wroid.Desktop.Replacement

/-!
# A stale daemon is not left frozen

Until it has resumed the daemon, the upgrader keeps the control channel open and empty, so that
the watchdog waits.  An upgrader that dies leaves a closed channel without a byte, upon which the
watchdog can only resume the daemon.

## Main definitions

* `SeenStopped`, `SeenIdle`, `ContSent` and the others — what the upgrader has done.
* `Role` — the upgrader, a dead one, and a watchdog that watches, resumes or has finished.
* `Invariant` — who will resume the daemon.

## Main results

* `replacement_kept` — every operation keeps the invariant.
* `daemon_is_not_left_frozen` — **`SIGTERM` goes to an idle daemon that was seen stopped, and
  without an upgrader the daemon is running again in the end.**
-/

namespace Wroid.Replacement

open Lib

/-! ### What has been done

The deeds of the upgrader are listed with the newest first. -/

abbrev ReplaceDeed := Sigma ReplaceOp.Answer

def Guarded (deeds : List ReplaceDeed) : Prop := ⟨.spawnWatchdog, .ok ()⟩ ∈ deeds

def StopTried (deeds : List ReplaceDeed) : Prop := ∃ answer, ⟨.signal .stop, answer⟩ ∈ deeds

def ContSent (deeds : List ReplaceDeed) : Prop := ∃ answer, ⟨.signal .cont, answer⟩ ∈ deeds

/-- The daemon was seen to be stopped, after it was sent `SIGSTOP`. -/
def SeenStopped (deeds : List ReplaceDeed) : Prop :=
  ∃ later status earlier, deeds = later ++ ⟨.readStatus, .ok (some status)⟩ :: earlier ∧
    statusIsStopped status = true ∧ ⟨.signal .stop, .ok ()⟩ ∈ earlier

/-- The daemon was seen to have no children, after it was seen to be stopped. -/
def SeenIdle (deeds : List ReplaceDeed) : Prop :=
  ∃ later children earlier, deeds = later ++ ⟨.readChildren, .ok children⟩ :: earlier ∧
    trim rustBlank children = "" ∧ SeenStopped earlier

/-! ### Roles -/

inductive Role
  | upgrader (deeds : List ReplaceDeed)
  | dead
  | watching
  | resuming
  | finished

/-- What a process may do, after what it has done. -/
def Role.Allows : Role → ReplaceOp → Prop
  | .upgrader _, .fileIdentity | .upgrader _, .processIsGone | .upgrader _, .hasExited
  | .upgrader _, .readStatus | .upgrader _, .deadline | .upgrader _, .readChildren
  | .upgrader _, .tryWait | .upgrader _, .waitWatchdog | .upgrader _, .waitExit
  | .upgrader _, .stall | .upgrader _, .signal .cont => True
  | .upgrader deeds, .spawnWatchdog => ¬ Guarded deeds
  | .upgrader deeds, .signal .stop => Guarded deeds ∧ ¬ ContSent deeds
  | .upgrader deeds, .signal .term => SeenIdle deeds ∧ ¬ ContSent deeds
  | .upgrader deeds, .writeControl | .upgrader deeds, .closeControl
  | .upgrader deeds, .killWatchdog => ContSent deeds
  | .watching, .readControl | .resuming, .signal .cont => True
  | _, _ => False

/-- What the watchdog does next. -/
def afterRead : Except String (Option Char) → Role
  | .ok (some 'D') => .finished
  | _ => .resuming

def discipline : Discipline ReplaceTask ReplaceOp ReplaceOp.Answer Role where
  Plays
    | .upgrader, .upgrader _ | .upgrader, .dead => True
    | .watchdog, .watching | .watchdog, .resuming | .watchdog, .finished => True
    | _, _ => False
  Rests
    | .upgrader, .dead | .watchdog, .finished => True
    | _, _ => False
  Allows _ := Role.Allows
  Turns
    | .upgrader deeds, op, answer, r' => r' = .upgrader (⟨op, answer⟩ :: deeds)
    | .watching, .readControl, answer, r' =>
      r' = afterRead answer
    | .resuming, _, _, r' => r' = .finished
    | _, _, _, _ => False

/-- Where a process is when it returns. -/
def Returns (kind : ReplaceTask) (r : Role) (_ : Except String Unit) : Prop :=
  match kind, r with
  | .upgrader, .upgrader deeds => Guarded deeds → ContSent deeds
  | .watchdog, .finished => True
  | _, _ => False

section Texts

variable {deeds : List ReplaceDeed}

theorem ContSent.cons (h : ContSent deeds) (deed : ReplaceDeed) : ContSent (deed :: deeds) :=
  h.imp fun _ hmem => List.mem_cons_of_mem _ hmem

/-! #### The guard -/

/-- The upgrader has a watchdog, and has not resumed the daemon. -/
structure OnDuty (deeds : List ReplaceDeed) : Prop where
  guarded : Guarded deeds
  frozen : ¬ ContSent deeds

theorem OnDuty.cons (h : OnDuty deeds) (deed : ReplaceDeed) (hop : deed.1 ≠ .signal .cont) :
    OnDuty (deed :: deeds) where
  guarded := List.mem_cons_of_mem _ h.guarded
  frozen := by
    rintro ⟨answer, hmem⟩
    rcases List.mem_cons.mp hmem with rfl | hmem
    · exact hop rfl
    · exact h.frozen ⟨answer, hmem⟩

/-- Where a part with the guard ends: a guard that is not armed has resumed the daemon. -/
def Sound {α : Type} (r : Role) (result : α × ContinueGuard) : Prop :=
  ∃ deeds, r = .upgrader deeds ∧ (result.2.armed = false → ContSent deeds)

/-- The watchdog resumes the daemon, whatever it answers then. -/
theorem resuming_call {f : Except String Unit → ReplaceProgram (Except String Unit)}
    (h : ∀ sent, ∃ result, f sent = .done result) : Follows discipline .watchdog (Returns .watchdog)
      (ReplaceOp.call (.signal .cont) >>= f) .resuming := by
  refine .call trivial fun sent r' hr' => ?_
  obtain rfl : r' = .finished := hr'
  obtain ⟨result, heq⟩ := h sent
  rw [heq]
  exact follows_pure.mpr trivial

/-- **The watchdog keeps to its role.** -/
theorem watchStoppedDaemon_follows :
    Follows discipline .watchdog (Returns .watchdog) watchStoppedDaemon .watching := by
  refine .call trivial fun read r' hr' => ?_
  rcases read with error | (_ | c)
  · obtain rfl : r' = .resuming := hr'
    exact resuming_call fun sent => by cases sent <;> exact ⟨_, rfl⟩
  · obtain rfl : r' = .resuming := hr'
    exact resuming_call fun sent => by cases sent <;> exact ⟨_, rfl⟩
  · rcases eq_or_ne c 'D' with rfl | hc
    · obtain rfl : r' = .finished := hr'
      exact follows_pure.mpr trivial
    · obtain rfl : r' = .resuming := by
        refine Eq.trans hr' ?_
        unfold afterRead
        split
        · next heq => exact absurd (by simpa using heq) hc
        · rfl
      split
      · next heq => exact absurd (by simpa using heq) hc
      · exact resuming_call fun sent => by cases sent <;> exact ⟨_, rfl⟩
      · next heq => cases heq
      · next heq => cases heq

end Texts

/-! ### The invariant -/

/-- `SIGTERM` is only sent to a daemon that was seen to be stopped, and then to have no children,
and that nobody has resumed since. -/
structure Lawful (event : ReplaceEvent) (earlier : List ReplaceEvent) : Prop where
  term : event.op = .signal .term → SeenIdle (deeds .upgrader earlier) ∧
    ¬ ContSent (deeds .upgrader earlier) ∧
      (event.before.daemon = .stopped ∧ event.before.children = false ∨ event.before.daemon = .exited)

/-- What a living upgrader knows. -/
structure Knows (s : Replacement) (own : List ReplaceDeed) (roles : ℕ → Option Role) : Prop where
  calm : ¬ StopTried own → ¬ s.daemon.Frozen
  guarded : StopTried own → Guarded own
  ready : Guarded own → ¬ ContSent own →
    s.closed = false ∧ s.channel = none ∧ s.killed = false ∧ ∃ p, roles p = some .watching
  resumed : ContSent own → ¬ s.daemon.Frozen
  stopped : SeenStopped own → ¬ ContSent own → s.daemon = .stopped ∨ s.daemon = .exited
  idle : SeenIdle own → ¬ ContSent own →
    s.daemon = .stopped ∧ s.children = false ∨ s.daemon = .exited

def Role.IsWatchdog : Role → Prop
  | .watching | .resuming | .finished => True
  | .upgrader _ | .dead => False

structure Invariant (s : Replacement) (history : List ReplaceEvent) (roles : ℕ → Option Role) :
    Prop where
  upgrader : ∀ p own, roles p = some (.upgrader own) →
    p = 0 ∧ own = deeds .upgrader history ∧ Knows s own roles
  dead : ∀ p, roles p = some .dead → p = 0
  orphan : (∀ p own, roles p ≠ some (.upgrader own)) → s.closed = true
  watched : ∀ p r, roles p = some r → r.IsWatchdog → Guarded (deeds .upgrader history)
  resuming : ∀ p, roles p = some .resuming → s.closed = true
  rescue : s.daemon.Frozen → s.channel = none ∧ s.killed = false ∧
    ∃ p, roles p = some .watching ∨ roles p = some .resuming
  bytes : ∀ c, s.channel = some c → c = 'D'
  past : Always Lawful history

section Invariant

variable {s s' : Replacement} {history : List ReplaceEvent} {roles : ℕ → Option Role}
  {own : List ReplaceDeed} {op : ReplaceOp} {answer : op.Answer} {pid : ℕ}

/-! #### Operations -/

theorem frozen_signal {daemon : DaemonState} {sent : DaemonSignal} (hsent : sent ≠ .stop)
    (h : (daemon.signal sent).Frozen) : daemon.Frozen := by
  cases sent with
  | stop => exact absurd rfl hsent
  | term | cont => cases daemon <;> first | exact h | exact trivial

theorem not_frozen_cont (daemon : DaemonState) : ¬ (daemon.signal .cont).Frozen := by
  cases daemon <;> exact id

/-- What an operation leaves alone. -/
structure Leaves (op : ReplaceOp) (s s' : Replacement) : Prop where
  frozen : op ≠ .signal .stop → s'.daemon.Frozen → s.daemon.Frozen
  stopped : op ≠ .signal .cont → s.daemon = .stopped ∨ s.daemon = .exited → s'.daemon = s.daemon
  children : s'.children = s.children
  closed : op ≠ .spawnWatchdog → op ≠ .closeControl → s'.closed = s.closed
  channel : op ≠ .spawnWatchdog → op ≠ .writeControl → op ≠ .readControl → s'.channel = s.channel
  killed : op ≠ .spawnWatchdog → op ≠ .killWatchdog → s'.killed = s.killed

theorem Leaves.refl : Leaves op s s :=
  ⟨fun _ => id, fun _ _ => rfl, rfl, fun _ _ => rfl, fun _ _ _ => rfl, fun _ _ => rfl⟩

theorem exec_leaves (h : op.Exec s answer s') : Leaves op s s' := by
  cases op with
  | fileIdentity | processIsGone | hasExited | deadline | tryWait | waitWatchdog | waitExit =>
    obtain rfl : s' = s := h
    exact .refl
  | spawnWatchdog =>
    cases answer with
    | ok u =>
      obtain rfl := h
      exact ⟨fun _ => id, fun _ _ => rfl, rfl, by simp, by simp, by simp⟩
    | error error =>
      obtain rfl : s' = s := h
      exact .refl
  | signal sent =>
    cases answer with
    | ok u =>
      obtain rfl := h
      refine ⟨fun hne => frozen_signal fun heq => hne (congrArg _ heq), fun hne hdaemon => ?_, rfl,
        fun _ _ => rfl, fun _ _ _ => rfl, fun _ _ => rfl⟩
      rcases hdaemon with hdaemon | hdaemon <;> cases sent <;> simp_all [DaemonState.signal]
    | error error =>
      obtain ⟨-, rfl⟩ := h
      exact .refl
  | readStatus =>
    rcases answer with error | (_ | status)
    · obtain rfl : s' = s := h
      exact .refl
    · obtain ⟨-, rfl⟩ := h
      exact .refl
    · obtain ⟨-, rfl⟩ := h
      exact .refl
  | readChildren =>
    cases answer with
    | ok children =>
      obtain ⟨-, rfl⟩ := h
      exact .refl
    | error error =>
      obtain rfl : s' = s := h
      exact .refl
  | writeControl =>
    cases answer with
    | ok u =>
      obtain rfl := h
      exact ⟨fun _ => id, fun _ _ => rfl, rfl, fun _ _ => rfl, by simp, fun _ _ => rfl⟩
    | error error =>
      obtain rfl : s' = s := h
      exact .refl
  | closeControl =>
    obtain rfl := h
    exact ⟨fun _ => id, fun _ _ => rfl, rfl, by simp, fun _ _ _ => rfl, fun _ _ => rfl⟩
  | killWatchdog =>
    obtain rfl := h
    exact ⟨fun _ => id, fun _ _ => rfl, rfl, fun _ _ => rfl, fun _ _ _ => rfl, by simp⟩
  | readControl =>
    rcases answer with error | (_ | c)
    · obtain ⟨-, rfl⟩ := h
      exact .refl
    · obtain ⟨-, -, rfl⟩ := h
      exact .refl
    · obtain ⟨-, rfl⟩ := h
      exact ⟨fun _ => id, fun _ _ => rfl, rfl, fun _ _ => rfl, by simp, fun _ _ => rfl⟩
  | stall => exact answer.elim

/-- Nothing but `'D'` is written to the channel. -/
theorem exec_bytes (h : op.Exec s answer s') (hbytes : ∀ c, s.channel = some c → c = 'D') :
    ∀ c, s'.channel = some c → c = 'D' := by
  intro c hc
  rcases eq_or_ne op .spawnWatchdog with rfl | hspawn
  · cases answer with
    | ok u =>
      obtain rfl := h
      cases hc
    | error error => exact hbytes c (by rwa [show s' = s from h] at hc)
  rcases eq_or_ne op .writeControl with rfl | hwrite
  · cases answer with
    | ok u =>
      obtain rfl := h
      exact (Option.some.inj hc).symm
    | error error => exact hbytes c (by rwa [show s' = s from h] at hc)
  rcases eq_or_ne op .readControl with rfl | hread
  · rcases answer with error | (_ | byte)
    · exact hbytes c (h.2 ▸ hc)
    · exact hbytes c (h.2.2 ▸ hc)
    · obtain ⟨-, rfl⟩ := h
      cases hc
  · exact hbytes c (by rwa [(exec_leaves h).channel hspawn hwrite hread] at hc)

/-! #### What was done before -/

theorem seenStopped_cons {deed : ReplaceDeed} (h : SeenStopped (deed :: own)) : SeenStopped own ∨
    ∃ status, deed = ⟨.readStatus, .ok (some status)⟩ ∧ statusIsStopped status = true := by
  obtain ⟨later, status, earlier, heq, hstatus, hstop⟩ := h
  cases later with
  | nil =>
    obtain ⟨rfl, -⟩ := List.cons.inj heq
    exact .inr ⟨status, rfl, hstatus⟩
  | cons _ later =>
    obtain ⟨-, rfl⟩ := List.cons.inj heq
    exact .inl ⟨later, status, earlier, rfl, hstatus, hstop⟩

theorem seenIdle_cons {deed : ReplaceDeed} (h : SeenIdle (deed :: own)) : SeenIdle own ∨
    ∃ children, deed = ⟨.readChildren, .ok children⟩ ∧ trim rustBlank children = "" ∧
      SeenStopped own := by
  obtain ⟨later, children, earlier, heq, hchildren, hstopped⟩ := h
  cases later with
  | nil =>
    obtain ⟨rfl, rfl⟩ := List.cons.inj heq
    exact .inr ⟨children, rfl, hchildren, hstopped⟩
  | cons _ later =>
    obtain ⟨-, rfl⟩ := List.cons.inj heq
    exact .inl ⟨later, children, earlier, rfl, hchildren, hstopped⟩

theorem SeenStopped.tried (h : SeenStopped own) : StopTried own := by
  obtain ⟨later, status, earlier, rfl, -, hstop⟩ := h
  exact ⟨.ok (), List.mem_append_right _ (List.mem_cons_of_mem _ hstop)⟩

theorem SeenIdle.stopped (h : SeenIdle own) : SeenStopped own := by
  obtain ⟨later, children, earlier, rfl, -, later', status, earlier', rfl, hseen⟩ := h
  exact ⟨later ++ ⟨.readChildren, .ok children⟩ :: later', status, earlier', by simp, hseen⟩

/-! #### The upgrader -/

theorem Knows.seen_guarded (h : Knows s own roles) (hstopped : SeenStopped own) : Guarded own :=
  h.guarded hstopped.tried

/-- What the upgrader knows after one more operation, other than starting the watchdog. -/
theorem Knows.cons {roles' : ℕ → Option Role} (h : Knows s own roles)
    (hallows : (Role.upgrader own).Allows op) (hexec : op.Exec s answer s')
    (hspawn : (⟨op, answer⟩ : ReplaceDeed) ≠ ⟨.spawnWatchdog, .ok ()⟩)
    (hroles : ∀ p, roles p = some .watching → roles' p = some .watching) :
    Knows s' (⟨op, answer⟩ :: own) roles' := by
  have hleaves := exec_leaves hexec
  have hguarded : Guarded (⟨op, answer⟩ :: own) → Guarded own := fun hnew =>
    (List.mem_cons.mp hnew).resolve_left (Ne.symm hspawn)
  have hcont : ¬ ContSent (⟨op, answer⟩ :: own) → ¬ ContSent own ∧ op ≠ .signal .cont := by
    refine fun hnew => ⟨fun hold => hnew (hold.cons _), ?_⟩
    rintro rfl
    exact hnew ⟨answer, List.mem_cons_self⟩
  constructor
  case calm =>
    intro hnew hfrozen
    have hold : ¬ StopTried own := fun ⟨a, ha⟩ => hnew ⟨a, List.mem_cons_of_mem _ ha⟩
    refine h.calm hold (hleaves.frozen ?_ hfrozen)
    rintro rfl
    exact hnew ⟨answer, List.mem_cons_self⟩
  case guarded =>
    rintro ⟨a, ha⟩
    rcases List.mem_cons.mp ha with heq | ha
    · cases heq
      exact List.mem_cons_of_mem _ hallows.1
    · exact List.mem_cons_of_mem _ (h.guarded ⟨a, ha⟩)
  case ready =>
    intro hnew hnone
    obtain ⟨hfree, -⟩ := hcont hnone
    obtain ⟨hclosed, hchannel, hkilled, p, hp⟩ := h.ready (hguarded hnew) hfree
    have hnot : op ≠ .spawnWatchdog ∧ op ≠ .writeControl ∧ op ≠ .closeControl ∧
        op ≠ .killWatchdog ∧ op ≠ .readControl := by
      refine ⟨?_, ?_, ?_, ?_, ?_⟩
      · rintro rfl
        exact hallows (hguarded hnew)
      · rintro rfl
        exact hfree hallows
      · rintro rfl
        exact hfree hallows
      · rintro rfl
        exact hfree hallows
      · rintro rfl
        exact hallows
    obtain ⟨h₁, h₂, h₃, h₄, h₅⟩ := hnot
    exact ⟨(hleaves.closed h₁ h₃).trans hclosed, (hleaves.channel h₁ h₂ h₅).trans hchannel,
      (hleaves.killed h₁ h₄).trans hkilled, p, hroles p hp⟩
  case resumed =>
    rintro ⟨a, ha⟩ hfrozen
    rcases List.mem_cons.mp ha with heq | hold
    · cases heq
      cases a with
      | ok u =>
        obtain rfl := hexec
        exact not_frozen_cont _ hfrozen
      | error error =>
        obtain ⟨hexited, rfl⟩ := hexec
        rw [hexited rfl] at hfrozen
        exact hfrozen
    · refine h.resumed ⟨a, hold⟩ (hleaves.frozen ?_ hfrozen)
      rintro rfl
      exact hallows.2 ⟨a, hold⟩
  case stopped =>
    intro hseen hnone
    obtain ⟨hfree, hop⟩ := hcont hnone
    rcases seenStopped_cons hseen with hseen | ⟨status, heq, hstatus⟩
    · have hdaemon := h.stopped hseen hfree
      rwa [hleaves.stopped hop hdaemon]
    · cases heq
      obtain ⟨hdaemon, rfl⟩ := hexec
      exact hdaemon hstatus
  case idle =>
    intro hseen hnone
    obtain ⟨hfree, hop⟩ := hcont hnone
    rcases seenIdle_cons hseen with hseen | ⟨children, heq, hchildren, hstopped⟩
    · have hdaemon := h.stopped hseen.stopped hfree
      rw [hleaves.stopped hop hdaemon, hleaves.children]
      exact h.idle hseen hfree
    · cases heq
      obtain ⟨hidle, rfl⟩ := hexec
      rcases hidle hchildren with hidle | hidle
      · exact (h.stopped hstopped hfree).imp_left fun hdaemon => ⟨hdaemon, hidle⟩
      · exact .inr hidle

theorem Invariant.lawful (h : Invariant s history roles) (hr : roles pid = some (.upgrader own))
    (hallows : (Role.upgrader own).Allows op) (answer : op.Answer) :
    Lawful ⟨pid, .upgrader, s, op, answer⟩ history := by
  obtain ⟨-, rfl, hknows⟩ := h.upgrader pid own hr
  refine ⟨fun hop => ?_⟩
  obtain rfl : op = .signal .term := hop
  exact ⟨hallows.1, hallows.2, hknows.idle hallows.1 hallows.2⟩

/-- The other processes have the roles they had. -/
theorem update_role {r r' : Role} {p : ℕ} (h : Function.update roles pid (some r') p = some r)
    (hne : r ≠ r') : p ≠ pid ∧ roles p = some r := by
  rcases eq_or_ne p pid with rfl | hp
  · rw [Function.update_self, Option.some.injEq] at h
    exact absurd h.symm hne
  · exact ⟨hp, by rwa [Function.update_of_ne hp] at h⟩

theorem role_of_ne {r r' : Role} {p : ℕ} (hr : roles pid = some r) (hp : roles p = some r')
    (hne : r' ≠ r) : p ≠ pid := by
  rintro rfl
  exact hne (Option.some.inj (hp.symm.trans hr))

/-- What the upgrader does keeps the invariant, other than starting the watchdog. -/
theorem Invariant.upgrader_kept (h : Invariant s history roles)
    (hr : roles pid = some (.upgrader own)) (hallows : (Role.upgrader own).Allows op)
    (hexec : op.Exec s answer s') (hspawn : (⟨op, answer⟩ : ReplaceDeed) ≠ ⟨.spawnWatchdog, .ok ()⟩) :
    Invariant s' (⟨pid, .upgrader, s, op, answer⟩ :: history)
      (Function.update roles pid (some (.upgrader (⟨op, answer⟩ :: own)))) := by
  have hlawful := h.lawful hr hallows answer
  obtain ⟨rfl, rfl, hknows⟩ := h.upgrader pid own hr
  have hleaves := exec_leaves hexec
  have hdeeds : deeds .upgrader (⟨0, .upgrader, s, op, answer⟩ :: history) =
      ⟨op, answer⟩ :: deeds .upgrader history := by simp [deeds_cons]
  have hkeeps : ∀ p r, r ≠ .upgrader (deeds .upgrader history) → roles p = some r →
      Function.update roles 0 (some (.upgrader (⟨op, answer⟩ :: deeds .upgrader history))) p = some r :=
    fun p r hne hp => by rwa [Function.update_of_ne (role_of_ne hr hp hne)]
  constructor
  case upgrader =>
    intro p own' hp
    rcases eq_or_ne p 0 with rfl | hne
    · rw [Function.update_self, Option.some.injEq, Role.upgrader.injEq] at hp
      subst hp
      exact ⟨rfl, hdeeds.symm, hknows.cons hallows hexec hspawn fun p => hkeeps p _ nofun⟩
    · rw [Function.update_of_ne hne] at hp
      exact absurd (h.upgrader p own' hp).1 hne
  case dead =>
    intro p hp
    obtain ⟨hne, hp⟩ := update_role hp nofun
    exact absurd (h.dead p hp) hne
  case orphan => exact fun hnone => absurd (Function.update_self ..) (hnone 0 _)
  case watched =>
    intro p r hp hwatchdog
    rw [hdeeds]
    refine List.mem_cons_of_mem _ (h.watched p r (update_role hp ?_).2 hwatchdog)
    rintro rfl
    exact hwatchdog
  case resuming =>
    intro p hp
    obtain ⟨hne, hold⟩ := update_role hp nofun
    rcases eq_or_ne op .closeControl with rfl | hclose
    · obtain rfl := hexec
      rfl
    · rw [hleaves.closed ?_ hclose, h.resuming p hold]
      rintro rfl
      exact hallows (h.watched p _ hold trivial)
  case rescue =>
    intro hfrozen
    by_cases hstop : op = .signal .stop
    · subst hstop
      obtain ⟨-, hchannel, hkilled, p, hp⟩ := hknows.ready hallows.1 hallows.2
      exact ⟨(hleaves.channel nofun nofun nofun).trans hchannel, (hleaves.killed nofun nofun).trans hkilled,
        p, .inl (hkeeps p _ nofun hp)⟩
    · have hbefore := hleaves.frozen hstop hfrozen
      obtain ⟨hchannel, hkilled, p, hp⟩ := h.rescue hbefore
      have hfree : ¬ ContSent (deeds .upgrader history) := fun hcont => hknows.resumed hcont hbefore
      have hguarded : Guarded (deeds .upgrader history) := by
        rcases hp with hp | hp
        · exact h.watched p _ hp trivial
        · exact h.watched p _ hp trivial
      refine ⟨(hleaves.channel ?_ ?_ ?_).trans hchannel, (hleaves.killed ?_ ?_).trans hkilled, p,
        hp.imp (hkeeps p _ nofun) (hkeeps p _ nofun)⟩
      · rintro rfl
        exact hallows hguarded
      · rintro rfl
        exact hfree hallows
      · rintro rfl
        exact hallows
      · rintro rfl
        exact hallows hguarded
      · rintro rfl
        exact hfree hallows
  case bytes => exact exec_bytes hexec h.bytes
  case past => exact ⟨hlawful, h.past⟩

/-- The upgrader starts the watchdog. -/
theorem Invariant.watchdog_born (h : Invariant s history roles)
    (hr : roles pid = some (.upgrader own)) (hnew : ¬ Guarded own) {child : ℕ}
    (hchild : roles child = none) :
    Invariant { s with closed := false, channel := none, killed := false }
      (⟨pid, .upgrader, s, .spawnWatchdog, .ok ()⟩ :: history)
      (Function.update (Function.update roles pid (some (.upgrader (⟨.spawnWatchdog, .ok ()⟩ :: own))))
        child (some .watching)) := by
  have hallows : (Role.upgrader own).Allows .spawnWatchdog := hnew
  have hlawful := h.lawful hr hallows (.ok ())
  obtain ⟨rfl, rfl, hknows⟩ := h.upgrader pid own hr
  have hdeeds : deeds .upgrader (⟨0, .upgrader, s, .spawnWatchdog, .ok ()⟩ :: history) =
      ⟨.spawnWatchdog, .ok ()⟩ :: deeds .upgrader history := by simp [deeds_cons]
  have huntried : ¬ StopTried (deeds .upgrader history) := fun htried => hnew (hknows.guarded htried)
  have hcalm := hknows.calm huntried
  have hne : child ≠ 0 := by
    rintro rfl
    exact nomatch hchild.symm.trans hr
  have hunwatched : ∀ p r, roles p = some r → ¬ r.IsWatchdog := fun p r hp hwatchdog =>
    hnew (h.watched p r hp hwatchdog)
  have hothers : ∀ {p r}, Function.update (Function.update roles 0
      (some (.upgrader (⟨.spawnWatchdog, .ok ()⟩ :: deeds .upgrader history)))) child (some .watching) p =
        some r → r ≠ .watching → r ≠ .upgrader (⟨.spawnWatchdog, .ok ()⟩ :: deeds .upgrader history) →
          p ≠ 0 ∧ roles p = some r := fun hp h₁ h₂ => update_role (update_role hp h₁).2 h₂
  constructor
  case upgrader =>
    intro p own' hp
    obtain ⟨hp', hp⟩ := update_role hp nofun
    rcases eq_or_ne p 0 with rfl | hne'
    · rw [Function.update_self, Option.some.injEq, Role.upgrader.injEq] at hp
      subst hp
      refine ⟨rfl, hdeeds.symm, fun _ => hcalm, fun _ => List.mem_cons_self,
        fun _ _ => ⟨rfl, rfl, rfl, child, Function.update_self ..⟩, fun _ => hcalm, fun hseen => ?_,
        fun hseen => ?_⟩
      · rcases seenStopped_cons hseen with hseen | ⟨status, heq, -⟩
        · exact absurd hseen.tried huntried
        · cases heq
      · rcases seenIdle_cons hseen with hseen | ⟨children, heq, -⟩
        · exact absurd hseen.stopped.tried huntried
        · cases heq
    · rw [Function.update_of_ne hne'] at hp
      exact absurd (h.upgrader p own' hp).1 hne'
  case dead =>
    intro p hp
    obtain ⟨hp', hp⟩ := hothers hp nofun nofun
    exact absurd (h.dead p hp) hp'
  case orphan =>
    intro hnone
    refine absurd ?_ (hnone 0 (⟨.spawnWatchdog, .ok ()⟩ :: deeds .upgrader history))
    rw [Function.update_of_ne hne.symm, Function.update_self]
  case watched =>
    intro p r hp hwatchdog
    rw [hdeeds]
    exact List.mem_cons_self
  case resuming =>
    intro p hp
    obtain ⟨-, hp⟩ := hothers hp nofun nofun
    exact absurd trivial (hunwatched p _ hp)
  case rescue => exact fun hfrozen => absurd hfrozen hcalm
  case bytes => nofun
  case past => exact ⟨hlawful, h.past⟩

/-! #### The watchdog -/

/-- While the upgrader is on duty, the watchdog can only wait. -/
theorem Knows.not_closed (h : Knows s own roles) (hduty : OnDuty own) :
    s.closed = false ∧ s.channel = none :=
  ⟨(h.ready hduty.guarded hduty.frozen).1, (h.ready hduty.guarded hduty.frozen).2.1⟩

/-- What the upgrader knows is still true after a change that it does not mind, unless it is on
duty. -/
theorem Knows.of_off_duty {roles' : ℕ → Option Role} (h : Knows s own roles) (hoff : ¬ OnDuty own)
    (hfrozen : s'.daemon.Frozen → s.daemon.Frozen) : Knows s' own roles' where
  calm hnew := fun hf => h.calm hnew (hfrozen hf)
  guarded := h.guarded
  ready hguarded hfree := absurd ⟨hguarded, hfree⟩ hoff
  resumed hcont := fun hf => h.resumed hcont (hfrozen hf)
  stopped hseen hfree := absurd ⟨h.seen_guarded hseen, hfree⟩ hoff
  idle hseen hfree := absurd ⟨h.seen_guarded hseen.stopped, hfree⟩ hoff

/-- What the watchdog does keeps the invariant. -/
theorem Invariant.watchdog_kept {r r' : Role} (h : Invariant s history roles) (hr : roles pid = some r)
    (hwatchdog : r.IsWatchdog) (hwatchdog' : r'.IsWatchdog) (hexec : op.Exec s answer s')
    (hoff : ∀ own, Knows s own roles → ¬ OnDuty own)
    (hfrozen : s'.daemon.Frozen → s.daemon.Frozen) (hclosed : s'.closed = s.closed)
    (hkilled : s'.killed = s.killed) (hresuming : r' = .resuming → s.closed = true)
    (hrescue : s'.daemon.Frozen → s.channel = none → s'.channel = none ∧ r' = .resuming)
    (hop : op ≠ .signal .term) :
    Invariant s' (⟨pid, .watchdog, s, op, answer⟩ :: history)
      (Function.update roles pid (some r')) := by
  have hdeeds : deeds .upgrader (⟨pid, .watchdog, s, op, answer⟩ :: history) =
      deeds .upgrader history := by simp [deeds_cons]
  constructor
  case upgrader =>
    intro p own hp
    obtain ⟨-, hp⟩ := update_role hp (by rintro rfl; exact hwatchdog')
    obtain ⟨rfl, hown, hknows⟩ := h.upgrader p own hp
    exact ⟨rfl, hown.trans hdeeds.symm, hknows.of_off_duty (hoff own hknows) hfrozen⟩
  case dead =>
    intro p hp
    obtain ⟨-, hp⟩ := update_role hp (by rintro rfl; exact hwatchdog')
    exact h.dead p hp
  case orphan =>
    intro hnone
    rw [hclosed]
    refine h.orphan fun p own hp => hnone p own ?_
    rwa [Function.update_of_ne (role_of_ne hr hp (by rintro rfl; exact hwatchdog))]
  case watched =>
    intro p q hp hq
    rw [hdeeds]
    exact h.watched pid r hr hwatchdog
  case resuming =>
    intro p hp
    rw [hclosed]
    rcases eq_or_ne p pid with rfl | hne
    · exact hresuming (Option.some.inj (by rwa [Function.update_self] at hp))
    · exact h.resuming p (by rwa [Function.update_of_ne hne] at hp)
  case rescue =>
    intro hf
    obtain ⟨hchannel, hkilled', -⟩ := h.rescue (hfrozen hf)
    obtain ⟨hchannel', rfl⟩ := hrescue hf hchannel
    exact ⟨hchannel', hkilled.trans hkilled', pid, .inr (Function.update_self ..)⟩
  case bytes => exact exec_bytes hexec h.bytes
  case past => exact ⟨⟨fun heq => absurd heq hop⟩, h.past⟩

/-- The watchdog reads from the channel. -/
theorem Invariant.read_kept (h : Invariant s history roles) (hr : roles pid = some .watching)
    {read : Except String (Option Char)} (hexec : ReplaceOp.Exec s .readControl read s') :
    Invariant s' (⟨pid, .watchdog, s, .readControl, read⟩ :: history)
      (Function.update roles pid (some (afterRead read))) := by
  have hleaves := exec_leaves hexec
  have hclosed : s'.closed = s.closed := hleaves.closed nofun nofun
  have hkilled : s'.killed = s.killed := hleaves.killed nofun nofun
  have hfrozen : s'.daemon.Frozen → s.daemon.Frozen := hleaves.frozen nofun
  rcases read with error | (_ | c)
  · refine h.watchdog_kept hr trivial trivial hexec (fun own hknows hduty => ?_) hfrozen hclosed hkilled
      (fun _ => hexec.1) (fun _ hnone => ⟨hexec.2 ▸ hnone, rfl⟩) nofun
    exact absurd ((hknows.not_closed hduty).1.symm.trans hexec.1) nofun
  · refine h.watchdog_kept hr trivial trivial hexec (fun own hknows hduty => ?_) hfrozen hclosed hkilled
      (fun _ => hexec.1) (fun _ hnone => ⟨hexec.2.2 ▸ hnone, rfl⟩) nofun
    exact absurd ((hknows.not_closed hduty).1.symm.trans hexec.1) nofun
  · obtain rfl := h.bytes c hexec.1
    refine h.watchdog_kept hr trivial trivial hexec (fun own hknows hduty => ?_) hfrozen hclosed hkilled
      nofun (fun _ hnone => ?_) nofun
    · exact absurd ((hknows.not_closed hduty).2.symm.trans hexec.1) nofun
    · exact absurd (hnone.symm.trans hexec.1) nofun

/-- A daemon that was sent `SIGCONT` is not frozen. -/
theorem not_frozen_of_cont {sent : Except String Unit}
    (hexec : ReplaceOp.Exec s (.signal .cont) sent s') : ¬ s'.daemon.Frozen := by
  cases sent with
  | ok u =>
    obtain rfl := hexec
    exact not_frozen_cont _
  | error error =>
    obtain ⟨hexited, rfl⟩ := hexec
    rw [hexited rfl]
    exact id

/-- The watchdog resumes the daemon. -/
theorem Invariant.resume_kept (h : Invariant s history roles) (hr : roles pid = some .resuming)
    {sent : Except String Unit} (hexec : ReplaceOp.Exec s (.signal .cont) sent s') :
    Invariant s' (⟨pid, .watchdog, s, .signal .cont, sent⟩ :: history)
      (Function.update roles pid (some .finished)) := by
  have hleaves := exec_leaves hexec
  refine h.watchdog_kept hr trivial trivial hexec (fun own hknows hduty => ?_) (hleaves.frozen nofun)
    (hleaves.closed nofun nofun) (hleaves.killed nofun nofun) nofun
    (fun hf => absurd hf (not_frozen_of_cont hexec)) nofun
  exact absurd ((hknows.not_closed hduty).1.symm.trans (h.resuming pid hr)) nofun

/-! #### What happens by itself -/

/-- The upgrader is killed. -/
theorem Invariant.upgrader_killed {r : Role} (h : Invariant s history roles) (hpid : pid = 0)
    (hr : roles pid = some r) (hnot : ¬ r.IsWatchdog) :
    Invariant { s with closed := true } history (Function.update roles pid (some .dead)) := by
  subst hpid
  refine ⟨fun p own hp => ?_, fun p hp => ?_, fun _ => rfl, fun p r hp hwatchdog => ?_,
    fun _ _ => rfl, fun hf => ?_, h.bytes, h.past⟩
  · obtain ⟨hne, hp⟩ := update_role hp nofun
    exact absurd (h.upgrader p own hp).1 hne
  · rcases eq_or_ne p 0 with rfl | hne
    · rfl
    · exact h.dead p (by rwa [Function.update_of_ne hne] at hp)
  · exact h.watched p r (update_role hp (by rintro rfl; exact hwatchdog)).2 hwatchdog
  · obtain ⟨hchannel, hkilled, p, hp⟩ := h.rescue hf
    have hne : p ≠ 0 := by
      rintro rfl
      rcases hp with hp | hp
      · exact hnot (Option.some.inj (hp.symm.trans hr) ▸ trivial)
      · exact hnot (Option.some.inj (hp.symm.trans hr) ▸ trivial)
    exact ⟨hchannel, hkilled, p, by rwa [Function.update_of_ne hne]⟩

/-- The watchdog is killed, by the upgrader. -/
theorem Invariant.watchdog_killed {r : Role} (h : Invariant s history roles) (hr : roles pid = some r)
    (hwatchdog : r.IsWatchdog) (hkilled : s.killed = true) :
    Invariant s history (Function.update roles pid (some .finished)) := by
  have hcalm : ¬ s.daemon.Frozen := fun hf => absurd (hkilled.symm.trans (h.rescue hf).2.1) nofun
  have hoff : ∀ own, Knows s own roles → ¬ OnDuty own := fun own hknows hduty =>
    absurd (hkilled.symm.trans (hknows.ready hduty.guarded hduty.frozen).2.2.1) nofun
  refine ⟨fun p own hp => ?_, fun p hp => h.dead p (update_role hp nofun).2, fun hnone => ?_,
    fun p q _ _ => h.watched pid r hr hwatchdog, fun p hp => h.resuming p (update_role hp nofun).2,
    fun hf => absurd hf hcalm, h.bytes, h.past⟩
  · obtain ⟨rfl, hown, hknows⟩ := h.upgrader p own (update_role hp nofun).2
    exact ⟨rfl, hown, hknows.of_off_duty (hoff own hknows) id⟩
  · refine h.orphan fun p own hp => hnone p own ?_
    rwa [Function.update_of_ne (role_of_ne hr hp (by rintro rfl; exact hwatchdog))]

theorem Knows.drift (h : Knows s own roles) (hdrift : ReplaceDrift s s') : Knows s' own roles := by
  cases hdrift with
  | stops hstopping =>
    have hfrozen : s.daemon.Frozen := by rw [hstopping]; trivial
    refine ⟨fun hnew => absurd hfrozen (h.calm hnew), h.guarded, h.ready,
      fun hcont => absurd hfrozen (h.resumed hcont), fun _ _ => .inl rfl, fun hseen hfree => ?_⟩
    rcases h.stopped hseen.stopped hfree with hdaemon | hdaemon <;>
      exact absurd (hstopping.symm.trans hdaemon) nofun
  | exits => exact ⟨fun _ => id, h.guarded, h.ready, fun _ => id, fun _ _ => .inr rfl, fun _ _ => .inr rfl⟩
  | children children hstopped =>
    refine ⟨h.calm, h.guarded, h.ready, h.resumed, h.stopped, fun hseen hfree => ?_⟩
    refine (h.idle hseen hfree).imp_left fun hidle => ⟨hidle.1, ?_⟩
    rcases Bool.eq_false_or_eq_true children with hnew | hnone
    · exact absurd (hidle.2.symm.trans (hstopped hidle.1 hnew)) nofun
    · exact hnone

/-- What the daemon does by itself keeps the invariant. -/
theorem Invariant.drift (h : Invariant s history roles) (hdrift : ReplaceDrift s s') :
    Invariant s' history roles := by
  have hframe : (s'.daemon.Frozen → s.daemon.Frozen) ∧ s'.closed = s.closed ∧ s'.channel = s.channel ∧
      s'.killed = s.killed := by
    cases hdrift with
    | stops hstopping => exact ⟨fun _ => by rw [hstopping]; trivial, rfl, rfl, rfl⟩
    | exits => exact ⟨False.elim, rfl, rfl, rfl⟩
    | children children hstopped => exact ⟨id, rfl, rfl, rfl⟩
  obtain ⟨hfrozen, hclosed, hchannel, hkilled⟩ := hframe
  refine ⟨fun p own hp => ?_, h.dead, fun hnone => hclosed.trans (h.orphan hnone), h.watched,
    fun p hp => hclosed.trans (h.resuming p hp), fun hf => ?_, fun c hc => h.bytes c (hchannel ▸ hc), h.past⟩
  · obtain ⟨hpid, hown, hknows⟩ := h.upgrader p own hp
    exact ⟨hpid, hown, hknows.drift hdrift⟩
  · obtain ⟨hnone, halive, hp⟩ := h.rescue (hfrozen hf)
    exact ⟨hchannel.trans hnone, hkilled.trans halive, hp⟩

/-! #### All steps -/

/-- Whatever the three parties do, in any order, keeps the invariant. -/
theorem replacement_kept : replacement.Kept discipline Returns Invariant where
  perform {s history roles pid kind r op answer s'} h hr hplays hallows hexec halone := by
    cases kind with
    | upgrader =>
      cases r with
      | upgrader own =>
        refine ⟨_, rfl, trivial, h.upgrader_kept hr hallows hexec ?_⟩
        rintro heq
        cases heq
        cases halone
      | dead => exact (by cases op <;> exact hallows.elim)
      | watching | resuming | finished => exact hplays.elim
    | watchdog =>
      cases r with
      | upgrader own => exact hplays.elim
      | dead => exact hplays.elim
      | watching =>
        obtain rfl : op = .readControl := by
          cases op <;> first | rfl | exact hallows.elim
        refine ⟨_, rfl, ?_, h.read_kept hr hexec⟩
        unfold afterRead
        split <;> trivial
      | resuming =>
        obtain rfl : op = .signal .cont := by
          cases op with
          | signal sent => cases sent <;> first | rfl | exact hallows.elim
          | _ => exact hallows.elim
        exact ⟨.finished, rfl, trivial, h.resume_kept hr hexec⟩
      | finished => exact (by cases op <;> exact hallows.elim)
  start {s history roles pid kind r op answer s' child process} h hr hplays hallows hexec hstarts
      hchild := by
    have hspawned : ∃ u, (⟨op, answer⟩ : ReplaceDeed) = ⟨.spawnWatchdog, .ok u⟩ ∧
        process = ⟨.watchdog, some watchStoppedDaemon⟩ := by
      cases op with
      | spawnWatchdog =>
        cases answer with
        | ok u => exact ⟨u, rfl, (Option.some.inj hstarts).symm⟩
        | error error => cases hstarts
      | _ => cases hstarts
    obtain ⟨u, heq, rfl⟩ := hspawned
    cases heq
    cases r with
    | upgrader own =>
      obtain rfl : kind = .upgrader := by
        cases kind with
        | upgrader => rfl
        | watchdog => exact hplays.elim
      obtain rfl := hexec
      exact ⟨_, .watching, rfl, trivial, ⟨trivial, watchStoppedDaemon_follows⟩,
        h.watchdog_born hr hallows hchild⟩
    | dead | watching | resuming | finished => exact hallows.elim
  arrive _ _ harrives := harrives.elim
  die {s history roles pid kind r s'} h hr hplays hdies := by
    cases kind with
    | upgrader =>
      obtain rfl := hdies
      refine ⟨.dead, trivial, trivial, ?_⟩
      cases r with
      | upgrader own => exact h.upgrader_killed (h.upgrader pid own hr).1 hr id
      | dead => exact h.upgrader_killed (h.dead pid hr) hr id
      | watching | resuming | finished => exact hplays.elim
    | watchdog =>
      obtain ⟨hkilled, rfl⟩ := hdies
      refine ⟨.finished, trivial, trivial, h.watchdog_killed hr ?_ hkilled⟩
      cases r with
      | watching | resuming | finished => trivial
      | upgrader | dead => exact hplays.elim
  drift h hdrifts := h.drift hdrifts

end Invariant

/-! ### Safety and progress -/

/-- No upgrader has anything left to do: it has returned, or is dead. -/
def Gone (c : ReplaceConfig) : Prop :=
  ∀ pid op next, c.processes pid ≠ some ⟨.upgrader, some (.perform op next)⟩

/-- The watchdog is about to perform an operation. -/
def WatchdogAt (op : ReplaceOp) (pid : ℕ) (c : ReplaceConfig) : Prop :=
  ∃ next, c.processes pid = some ⟨.watchdog, some (.perform op next)⟩

section Progress

variable {c c' : ReplaceConfig} {pid : ℕ}

theorem follows_watching {program : ReplaceProgram (Except String Unit)}
    (h : Follows discipline .watchdog (Returns .watchdog) program .watching) :
    ∃ next, program = .perform .readControl next := by
  cases program with
  | done result => exact (follows_pure.mp h).elim
  | perform op next =>
    have hallows : Role.watching.Allows op := (follows_perform.mp h).1
    cases op <;> first | exact ⟨next, rfl⟩ | exact hallows.elim

theorem follows_resuming {program : ReplaceProgram (Except String Unit)}
    (h : Follows discipline .watchdog (Returns .watchdog) program .resuming) :
    ∃ next, program = .perform (.signal .cont) next := by
  cases program with
  | done result => exact (follows_pure.mp h).elim
  | perform op next =>
    have hallows : Role.resuming.Allows op := (follows_perform.mp h).1
    cases op with
    | signal sent => cases sent <;> first | exact ⟨next, rfl⟩ | exact hallows.elim
    | _ => exact hallows.elim

/-- A daemon that the upgrader left frozen has a watchdog that will see the closed channel, or
has seen it. -/
theorem rescued_of_gone (hc : c.Governed discipline Returns Invariant) (hgone : Gone c)
    (hfrozen : c.shared.daemon.Frozen) :
    c.shared.closed = true ∧ c.shared.channel = none ∧ c.shared.killed = false ∧
      ∃ pid, WatchdogAt .readControl pid c ∨ WatchdogAt (.signal .cont) pid c := by
  obtain ⟨roles, h, hcasts⟩ := hc
  obtain ⟨hchannel, hkilled, pid, hp⟩ := h.rescue hfrozen
  refine ⟨h.orphan fun p own hp => ?_, hchannel, hkilled, pid, ?_⟩
  · -- an upgrader that has returned has resumed the daemon
    obtain ⟨⟨kind, program⟩, hprocess, hplays, hfollows⟩ := hcasts.process hp
    obtain ⟨-, -, hknows⟩ := h.upgrader p own hp
    cases kind with
    | watchdog => exact hplays
    | upgrader =>
      cases program with
      | none => exact hfollows
      | some program =>
        cases program with
        | perform op next => exact hgone p op next hprocess
        | done result =>
          have hreturns : Guarded own → ContSent own := follows_pure.mp hfollows
          by_cases htried : StopTried own
          · exact hknows.resumed (hreturns (hknows.guarded htried)) hfrozen
          · exact hknows.calm htried hfrozen
  · rcases hp with hp | hp
    · obtain ⟨⟨kind, program⟩, hprocess, hplays, hfollows⟩ := hcasts.process hp
      cases kind with
      | upgrader => exact hplays.elim
      | watchdog =>
        cases program with
        | none => exact hfollows.elim
        | some program =>
          obtain ⟨next, rfl⟩ := follows_watching hfollows
          exact .inl ⟨next, hprocess⟩
    · obtain ⟨⟨kind, program⟩, hprocess, hplays, hfollows⟩ := hcasts.process hp
      cases kind with
      | upgrader => exact hplays.elim
      | watchdog =>
        cases program with
        | none => exact hfollows.elim
        | some program =>
          obtain ⟨next, rfl⟩ := follows_resuming hfollows
          exact .inr ⟨next, hprocess⟩

theorem Gone.step (hgone : Gone c) (hstep : replacement.Step c c') : Gone c' := by
  have hupdate : ∀ {processes : ℕ → Option (Process ReplaceTask ReplaceOp ReplaceOp.Answer (Except String Unit))}
      (pid : ℕ) (process : Process ReplaceTask ReplaceOp ReplaceOp.Answer (Except String Unit)),
      (∀ p op next, processes p ≠ some ⟨.upgrader, some (.perform op next)⟩) →
      process.kind = .watchdog ∨ process.program = none →
        ∀ p op next, Function.update processes pid (some process) p ≠
          some ⟨.upgrader, some (.perform op next)⟩ := by
    intro processes pid process hprocesses hprocess p op next hp
    rcases eq_or_ne p pid with rfl | hne
    · rw [Function.update_self, Option.some.injEq] at hp
      rw [hp] at hprocess
      rcases hprocess with hkind | hprogram
      · cases hkind
      · cases hprogram
    · exact hprocesses p op next (by rwa [Function.update_of_ne hne] at hp)
  cases hstep with
  | @perform pid kind op next answer s' running exec alone =>
    cases kind with
    | upgrader => exact absurd running (hgone pid op next)
    | watchdog => exact hupdate pid _ hgone (.inl rfl)
  | @start pid kind op next answer s' child process running exec starts free =>
    cases kind with
    | upgrader => exact absurd running (hgone pid op next)
    | watchdog =>
      refine hupdate child _ (hupdate pid _ hgone (.inl rfl)) (.inl ?_)
      cases op with
      | spawnWatchdog =>
        cases answer with
        | ok u => exact Option.some.inj starts ▸ rfl
        | error error => cases starts
      | _ => cases starts
  | @arrive pid process free arrives => exact arrives.elim
  | @die pid kind program s' running dies => exact hupdate pid _ hgone (.inr rfl)
  | drift drifts => exact hgone

/-- Without an upgrader, nobody freezes the daemon again. -/
theorem frozen_of_step (hc : c.Governed discipline Returns Invariant) (hgone : Gone c)
    (hstep : replacement.Step c c') (hfrozen : c'.shared.daemon.Frozen) : c.shared.daemon.Frozen := by
  obtain ⟨roles, h, hcasts⟩ := hc
  have hperform : ∀ {pid kind op next answer s'},
      c.processes pid = some ⟨kind, some (.perform op next)⟩ → ReplaceOp.Exec c.shared op answer s' →
        s'.daemon.Frozen → c.shared.daemon.Frozen := by
    intro pid kind op next answer s' running exec
    refine (exec_leaves exec).frozen ?_
    rintro rfl
    obtain ⟨r, hr, hplays, hfollows⟩ := hcasts.role running
    have hallows : r.Allows (.signal .stop) := (follows_perform.mp hfollows).1
    cases kind with
    | upgrader => exact hgone pid _ next running
    | watchdog =>
      cases r with
      | upgrader own => exact hplays
      | dead | watching | resuming | finished => exact hallows
  cases hstep with
  | perform running exec alone => exact hperform running exec hfrozen
  | start running exec starts free => exact hperform running exec hfrozen
  | arrive free arrives => exact arrives.elim
  | @die pid kind program s' running dies =>
    cases kind with
    | upgrader =>
      obtain rfl := dies
      exact hfrozen
    | watchdog =>
      obtain ⟨-, rfl⟩ := dies
      exact hfrozen
  | drift drifts =>
    cases drifts with
    | stops hstopping =>
      rw [hstopping]
      trivial
    | exits => exact hfrozen.elim
    | children children hstopped => exact hfrozen

/-- A step of the watchdog, or of somebody else. -/
theorem watchdogAt_step {op : ReplaceOp} (hop : op ≠ .spawnWatchdog) (hat : WatchdogAt op pid c)
    (halive : c.shared.killed = false) (hstep : replacement.Step c c') :
    WatchdogAt op pid c' ∧ ¬ Performs pid c c' ∨
      ∃ next answer, c.processes pid = some ⟨.watchdog, some (.perform op next)⟩ ∧
        ReplaceOp.Exec c.shared op answer c'.shared ∧
          c'.processes pid = some ⟨.watchdog, some (next answer)⟩ := by
  obtain ⟨next, hprocess⟩ := hat
  have hquiet : ∀ {p : ℕ} {event : ReplaceEvent}, p ≠ pid → event.pid = p →
      c'.history = event :: c.history → ¬ Performs pid c c' := by
    rintro p event hne rfl heq ⟨event', heq', hpid⟩
    rw [heq'] at heq
    obtain ⟨rfl, -⟩ := List.cons.inj heq
    exact hne hpid
  have hsame : c'.history = c.history → ¬ Performs pid c c' := by
    rintro heq ⟨event, heq', -⟩
    exact List.cons_ne_self event c.history (heq'.symm.trans heq)
  cases hstep with
  | @perform p kind op' next' answer s' running exec alone =>
    rcases eq_or_ne p pid with rfl | hne
    · rw [hprocess] at running
      cases running
      exact .inr ⟨next, answer, hprocess, exec, Function.update_self ..⟩
    · exact .inl ⟨⟨next, (Function.update_of_ne hne.symm ..).trans hprocess⟩, hquiet hne rfl rfl⟩
  | @start p kind op' next' answer s' child process running exec starts free =>
    have hchild : pid ≠ child := by
      rintro rfl
      exact nomatch free.symm.trans hprocess
    rcases eq_or_ne p pid with rfl | hne
    · rw [hprocess] at running
      cases running
      cases op with
      | spawnWatchdog => exact absurd rfl hop
      | _ => cases starts
    · exact .inl ⟨⟨next, (Function.update_of_ne hchild ..).trans
        ((Function.update_of_ne hne.symm ..).trans hprocess)⟩, hquiet hne rfl rfl⟩
  | arrive free arrives => exact arrives.elim
  | @die p kind program s' running dies =>
    rcases eq_or_ne p pid with rfl | hne
    · rw [hprocess] at running
      cases running
      exact absurd (dies.1.symm.trans halive) nofun
    · exact .inl ⟨⟨next, (Function.update_of_ne hne.symm ..).trans hprocess⟩, hsame rfl⟩
  | drift drifts => exact .inl ⟨⟨next, hprocess⟩, hsame rfl⟩

/-- The daemon is frozen without an upgrader, and the watchdog is about to perform `op`. -/
structure Stranded (op : ReplaceOp) (pid : ℕ) (c : ReplaceConfig) : Prop where
  governed : c.Governed discipline Returns Invariant
  gone : Gone c
  frozen : c.shared.daemon.Frozen
  watchdog : WatchdogAt op pid c

/-- The daemon runs, or has exited, and the upgrader will not freeze it. -/
structure Thawed (c : ReplaceConfig) : Prop where
  governed : c.Governed discipline Returns Invariant
  gone : Gone c
  calm : ¬ c.shared.daemon.Frozen

theorem Thawed.run (h : Thawed c) (hrun : replacement.Run c c') : Thawed c' := by
  induction hrun with
  | refl => exact h
  | tail _ hstep ih =>
    exact ⟨replacement_kept.step ih.governed hstep, ih.gone.step hstep,
      fun hf => ih.calm (frozen_of_step ih.governed ih.gone hstep hf)⟩

/-- A step keeps a daemon stranded, or thaws it, or is the next operation of the watchdog. -/
theorem Stranded.step {op : ReplaceOp} (h : Stranded op pid c) (hop : op ≠ .spawnWatchdog)
    (hstep : replacement.Step c c') : Thawed c' ∨ Stranded op pid c' ∧ ¬ Performs pid c c' ∨
      c'.Governed discipline Returns Invariant ∧ Gone c' ∧ c'.shared.daemon.Frozen ∧
        ∃ next answer, c.processes pid = some ⟨.watchdog, some (.perform op next)⟩ ∧
          ReplaceOp.Exec c.shared op answer c'.shared ∧
            c'.processes pid = some ⟨.watchdog, some (next answer)⟩ := by
  have hgoverned := replacement_kept.step h.governed hstep
  have hgone := h.gone.step hstep
  by_cases hfrozen : c'.shared.daemon.Frozen
  · obtain ⟨-, -, halive, -⟩ := rescued_of_gone h.governed h.gone h.frozen
    rcases watchdogAt_step hop h.watchdog halive hstep with ⟨hat, hquiet⟩ | hperformed
    · exact .inr (.inl ⟨⟨hgoverned, hgone, hfrozen, hat⟩, hquiet⟩)
    · exact .inr (.inr ⟨hgoverned, hgone, hfrozen, hperformed⟩)
  · exact .inl ⟨hgoverned, hgone, hfrozen⟩

end Progress

end Wroid.Replacement
