import Wroid.Inject.WaydroidBridgeSafety
import Wroid.Lib.Json

/-!
# The privileged helper

The helper runs as root.  It installs the bridge and then serves its standard input: it may be
asked once to verify the Android input, and then to clean up.  Whatever its input is, it takes the
bridge out at the end; unless it was asked to clean up in order, it stops the container before.

The input is the bytes that arrive, and how they end: by an end of file or by a failed read.

## Main definitions

* `HelperHost` — the input and output of the helper, what it calls, and what it has done.
* `serveHelperProtocol`, `runBridgeHelper` — the protocol, and the protocol with its teardown.
* `Graceful` — the inputs that ask for the cleanup in order.

## Main results

* `wp_serveHelperProtocol` — what the protocol does for an input.
* `helper_serves_and_tears_down` — **the input is verified once at most and reported only after
  that succeeded, the end is graceful exactly for the inputs that ask for it in order, any other
  input stops the container, and the bridge is cleaned up for every input**.
-/

namespace Wroid

open Lib

namespace PrivilegedBridge

open WaydroidBridge

def ANDROID_INPUT_READY_LINE : String := "WROID_ANDROID_INPUT_READY 1"

def MAX_HELPER_COMMAND_BYTES : ℕ := 64

def CLEANUP_COMMAND : List UInt8 := utf8Bytes "CLEANUP\n".toList

def VERIFY_ANDROID_INPUT_COMMAND : List UInt8 := utf8Bytes "VERIFY_ANDROID_INPUT\n".toList

inductive HelperProtocolCommand
  | verifyAndroidInput
  | cleanup
  deriving DecidableEq

/-- What the helper does to the world around it. -/
inductive HelperEvent
  | verified (result : Except IoError Unit)
  /-- A line is written to the standard output. -/
  | replied (line : String)
  | forcedStop
  | bridgeCleanup
  | accessRestored

/-- The helper in its world; the results are those of the calls to come. -/
structure HelperHost where
  stdin : List UInt8
  /-- The standard input ends with a failed read, or with an end of file. -/
  ending : Option IoError
  /-- The result of each verification. -/
  verify : ℕ → Except IoError Unit
  /-- Whether the reply can be written, and flushed. -/
  reply : Except IoError Unit
  flush : Except IoError Unit
  forceStop : Except IoError Unit
  /-- The result of each attempt to give the input node back to the host. -/
  restoreAccess : ℕ → Except IoError Unit
  bridgeHost : BridgeHost
  /-- How many verifications and attempts there have been. -/
  verifications : ℕ
  restorations : ℕ
  events : List HelperEvent

abbrev HelperM := EStateM IoError HelperHost

def note (event : HelperEvent) : HelperM Unit :=
  modify fun host => { host with events := host.events ++ [event] }

/-- A call with this result. -/
def outcome (result : Except IoError Unit) : HelperM Unit :=
  match result with
  | .ok () => pure ()
  | .error error => throw error

/-! ### The protocol -/

/-- `BufRead::read_until` with a newline, for a reader that takes `limit` bytes. -/
def readUntilNewline (limit : ℕ) : HelperM (List UInt8) := do
  let host ← get
  let line := lineOf (host.stdin.take limit)
  set { host with stdin := host.stdin.drop line.length }
  if line.getLast? = some newline ∨ line.length = limit then pure line
  else match host.ending with
    | none => pure line
    | some error => throw error

def invalidCommand : IoError := ⟨.invalidInput, "invalid Wroid helper protocol command"⟩

def readHelperCommand : HelperM (Option HelperProtocolCommand) := do
  let command ← readUntilNewline (MAX_HELPER_COMMAND_BYTES + 1)
  if command = [] then pure none
  else if command.length > MAX_HELPER_COMMAND_BYTES ∨ command.getLast? ≠ some newline then
    throw invalidCommand
  else if command = VERIFY_ANDROID_INPUT_COMMAND then pure (some .verifyAndroidInput)
  else if command = CLEANUP_COMMAND then pure (some .cleanup)
  else throw invalidCommand

def verifyAndroidInput : HelperM Unit := do
  let host ← get
  let result := host.verify host.verifications
  set { host with verifications := host.verifications + 1 }
  note (.verified result)
  outcome result

def replyReady : HelperM Unit := do
  note (.replied ANDROID_INPUT_READY_LINE)
  let host ← get
  outcome host.reply
  outcome host.flush

/-- The loop of `serve_helper_protocol`, for so many passes. -/
def serveLoop : ℕ → Bool → HelperM Bool
  | 0, _ => pure false
  | fuel + 1, verified => do
    match ← readHelperCommand with
    | some .verifyAndroidInput =>
      if verified then
        throw ⟨.invalidInput, "Android input verification was already requested"⟩
      else do
        verifyAndroidInput
        replyReady
        serveLoop fuel true
    | some .cleanup => pure true
    | none => pure false

/-- Two passes are all the loop ever makes; see `serveLoop_eq`. -/
def serveHelperProtocol : HelperM Bool := serveLoop 2 false

/-! ### The teardown -/

/-- The result of two attempts: the error of one, or of both under these words. -/
def combineResults (first second : Except IoError Unit) (firstWords secondWords : String) :
    Except IoError Unit :=
  match first, second with
  | .ok (), .ok () => .ok ()
  | .error error, .ok () => .error error
  | .ok (), .error error => .error error
  | .error error, .error error' =>
    .error ⟨.other, firstWords ++ error.detail ++ secondWords ++ error'.detail⟩

def combineBridgeCleanupResults (bridgeResult inputAccessResult : Except IoError Unit) :
    Except IoError Unit :=
  combineResults bridgeResult inputAccessResult "bridge cleanup failed: "
    "; input node access restore also failed: "

def combineHelperCleanupResults (stopResult bridgeResult : Except IoError Unit) :
    Except IoError Unit :=
  combineResults stopResult bridgeResult "Waydroid recovery stop failed: "
    "; bridge cleanup also failed: "

def forceStopWaydroidContainer : HelperM Unit := do
  note .forcedStop
  let host ← get
  outcome host.forceStop

/-- The container is stopped unless the protocol came to its end in order. -/
def stopUnlessGraceful (protocolResult : Except IoError Bool) : HelperM Unit :=
  match protocolResult with
  | .ok true => pure ()
  | _ => forceStopWaydroidContainer

def restoreAccess : HelperM Unit := do
  let host ← get
  let result := host.restoreAccess host.restorations
  set { host with restorations := host.restorations + 1 }
  note .accessRestored
  outcome result

/-- `AndroidInputAccess::cleanup` takes the access: when it fails, dropping the access tries
again. -/
def cleanupAccess : HelperM Unit := do
  match ← attempt restoreAccess with
  | .ok () => pure ()
  | .error error => do
    let _ : Except IoError Unit ← attempt restoreAccess
    throw error

def cleanupBridge (bridge : InstalledWaydroidBridge) : HelperM Unit := do
  note .bridgeCleanup
  zoom HelperHost.bridgeHost (fun bridgeHost host => { host with bridgeHost }) bridge.cleanup

/-- The helper once the protocol has come to its end. -/
def tearDown (bridge : InstalledWaydroidBridge) (protocolResult : Except IoError Bool) :
    HelperM Unit := do
  let stopResult ← attempt (stopUnlessGraceful protocolResult)
  let bridgeResult ← attempt (cleanupBridge bridge)
  let inputAccessResult ← attempt cleanupAccess
  let cleanupResult := combineHelperCleanupResults stopResult
    (combineBridgeCleanupResults bridgeResult inputAccessResult)
  match protocolResult, cleanupResult with
  | .ok _, result => outcome result
  | .error protocolError, .ok () => throw protocolError
  | .error protocolError, .error cleanupError =>
    throw ⟨.other, "helper protocol failed: " ++ protocolError.detail ++
      "; cleanup also failed: " ++ cleanupError.detail⟩

/-- `run_privileged_bridge_helper`, from the protocol on. -/
def runBridgeHelper (bridge : InstalledWaydroidBridge) : HelperM Unit := do
  let protocolResult ← attempt serveHelperProtocol
  tearDown bridge protocolResult

/-- The input asks for the cleanup in order: at once, or after a verification that succeeds and is
reported. -/
def Graceful (host : HelperHost) : Prop :=
  CLEANUP_COMMAND <+: host.stdin ∨
    VERIFY_ANDROID_INPUT_COMMAND ++ CLEANUP_COMMAND <+: host.stdin ∧
      host.verify host.verifications = .ok () ∧ host.reply = .ok () ∧ host.flush = .ok ()

/-! ### Reading a command -/

def commandBytes : HelperProtocolCommand → List UInt8
  | .verifyAndroidInput => VERIFY_ANDROID_INPUT_COMMAND
  | .cleanup => CLEANUP_COMMAND

/-- The line of an input that begins with a line is that line. -/
theorem lineOf_take_eq_iff {word bytes : List UInt8} {limit : ℕ} (hword : newline ∉ word)
    (hlimit : word.length < limit) :
    lineOf (bytes.take limit) = word ++ [newline] ↔ word ++ [newline] <+: bytes := by
  constructor
  · intro h
    rw [← h]
    exact (lineOf_isPrefix _).trans (List.take_prefix _ _)
  · rintro ⟨rest, rfl⟩
    obtain ⟨k, rfl⟩ : ∃ k, limit = word.length + (k + 1) := ⟨limit - word.length - 1, by omega⟩
    have htake : (word ++ [newline] ++ rest).take (word.length + (k + 1)) =
        word ++ newline :: rest.take k := by
      rw [List.append_assoc, List.take_length_add_append]
      rfl
    rw [htake, lineOf_append_newline hword]

/-- A command is a word and a newline, and shorter than the longest line that is read. -/
theorem exists_commandBytes (command : HelperProtocolCommand) :
    ∃ word, commandBytes command = word ++ [newline] ∧ newline ∉ word ∧
      word.length < MAX_HELPER_COMMAND_BYTES := by
  cases command with
  | verifyAndroidInput =>
    exact ⟨utf8Bytes "VERIFY_ANDROID_INPUT".toList, by decide +kernel, by decide +kernel,
      by decide +kernel⟩
  | cleanup => exact ⟨utf8Bytes "CLEANUP".toList, by decide +kernel, by decide +kernel,
      by decide +kernel⟩

theorem commandBytes_isPrefix_iff {command : HelperProtocolCommand} {bytes : List UInt8} :
    commandBytes command <+: bytes ↔
      lineOf (bytes.take (MAX_HELPER_COMMAND_BYTES + 1)) = commandBytes command := by
  obtain ⟨word, hbytes, hword, hlength⟩ := exists_commandBytes command
  rw [hbytes]
  exact (lineOf_take_eq_iff hword (hlength.trans (Nat.lt_succ_self _))).symm

/-- What is read is a first part of the input; the rest stays. -/
theorem wp_readUntilNewline (host : HelperHost) (limit : ℕ) :
    wp (readUntilNewline limit)
      (fun line h => h = { host with stdin := h.stdin } ∧ line ++ h.stdin = host.stdin ∧
        line = lineOf (host.stdin.take limit))
      (fun _ h => h = { host with stdin := h.stdin } ∧
        (lineOf (host.stdin.take limit)).getLast? ≠ some newline) host := by
  have hline := List.prefix_append_drop
    ((lineOf_isPrefix (host.stdin.take limit)).trans (List.take_prefix limit host.stdin))
  simp only [readUntilNewline, wp_bind, wp_get, wp_set, wp_ite, wp_pure]
  split
  · exact ⟨trivial, hline.symm, trivial⟩
  · next hend =>
    cases host.ending with
    | none => exact ⟨rfl, hline.symm, rfl⟩
    | some error => exact ⟨rfl, (not_or.mp hend).1⟩

/-- A command is read exactly if the input begins with it, and an end exactly if there is none. -/
theorem wp_readHelperCommand (host : HelperHost) :
    wp readHelperCommand
      (fun command h => h = { host with stdin := h.stdin } ∧
        match command with
        | some command => commandBytes command ++ h.stdin = host.stdin
        | none => host.stdin = [])
      (fun _ h => h = { host with stdin := h.stdin } ∧
        ∀ command, ¬ commandBytes command <+: host.stdin) host := by
  rw [readHelperCommand, wp_bind]
  refine wp_mono (wp_readUntilNewline host _) ?_ ?_
  · rintro line h ⟨hframe, hstdin, hline⟩
    have hprefix : ∀ command, commandBytes command <+: host.stdin ↔ line = commandBytes command :=
      fun command => commandBytes_isPrefix_iff.trans (by rw [hline])
    simp only [wp_ite, wp_pure, wp_throw, hprefix]
    split_ifs with hempty hlong hverify hcleanup
    · refine ⟨hframe, ?_⟩
      -- the line is empty only at the end of the input
      have hnil : host.stdin.take (MAX_HELPER_COMMAND_BYTES + 1) = [] :=
        lineOf_eq_nil.mp (hline.symm.trans hempty)
      rw [List.take_eq_nil_iff] at hnil
      exact hnil.resolve_left (Nat.succ_ne_zero _)
    · refine ⟨hframe, fun command hcommand => ?_⟩
      obtain ⟨word, hbytes, -, hlength⟩ := exists_commandBytes command
      rw [hcommand, hbytes, List.length_append, List.length_singleton, List.getLast?_concat] at hlong
      rcases hlong with hlong | hlong
      · omega
      · exact hlong rfl
    · rw [hverify] at hstdin
      exact ⟨hframe, hstdin⟩
    · rw [hcleanup] at hstdin
      exact ⟨hframe, hstdin⟩
    · refine ⟨hframe, fun command hcommand => ?_⟩
      cases command with
      | verifyAndroidInput => exact hverify hcommand
      | cleanup => exact hcleanup hcommand
  · rintro error h ⟨hframe, hlast⟩
    refine ⟨hframe, fun command hcommand => hlast ?_⟩
    obtain ⟨word, hbytes, -, -⟩ := exists_commandBytes command
    rw [commandBytes_isPrefix_iff.mp hcommand, hbytes, List.getLast?_concat]

/-! ### The protocol as a whole -/

/-- **The loop never makes more than two passes.** -/
theorem serveLoop_eq (fuel : ℕ) : serveLoop (fuel + 2) false = serveHelperProtocol := by
  simp only [serveHelperProtocol, serveLoop, if_true]

/-- The commands of an input. -/
theorem isPrefix_commandBytes_iff {command command' : HelperProtocolCommand}
    {bytes rest : List UInt8} (h : commandBytes command ++ rest = bytes) :
    commandBytes command' <+: bytes ↔ command' = command := by
  have hcommand := commandBytes_isPrefix_iff.mp ⟨rest, h⟩
  refine ⟨fun h' => ?_, fun h' => h' ▸ ⟨rest, h⟩⟩
  have heq := (commandBytes_isPrefix_iff.mp h').symm.trans hcommand
  cases command <;> cases command' <;> first | rfl | exact absurd heq (by decide +kernel)

/-- The pass after the verification ends the loop, gracefully if the cleanup is asked for. -/
theorem wp_serveLoop_true (host : HelperHost) :
    wp (serveLoop 1 true)
      (fun graceful h => h = { host with stdin := h.stdin } ∧
        (graceful = true ↔ CLEANUP_COMMAND <+: host.stdin))
      (fun _ h => h = { host with stdin := h.stdin } ∧ ¬ CLEANUP_COMMAND <+: host.stdin) host := by
  rw [serveLoop, wp_bind]
  refine wp_mono (wp_readHelperCommand host) ?_ fun _ h hfail => ⟨hfail.1, hfail.2 .cleanup⟩
  rintro (_ | command) h ⟨hframe, hstdin⟩
  · refine ⟨hframe, ?_⟩
    rw [hstdin, List.prefix_nil]
    exact iff_of_false nofun (by decide +kernel)
  · have hcleanup := @isPrefix_commandBytes_iff _ .cleanup _ _ hstdin
    cases command with
    | verifyAndroidInput => exact ⟨hframe, fun h => nomatch hcleanup.mp h⟩
    | cleanup => exact ⟨hframe, iff_of_true rfl (hcleanup.mpr rfl)⟩

/-- What the protocol does to the world: the verification, and after it the reply. -/
inductive Served (host : HelperHost) : List HelperEvent → Prop
  | nothing : Served host []
  | verified : Served host [.verified (host.verify host.verifications)]
  | replied (h : host.verify host.verifications = .ok ()) :
    Served host [.verified (.ok ()), .replied ANDROID_INPUT_READY_LINE]

/-- The protocol changes nothing but its input and what it has done. -/
def Serves (host h : HelperHost) : Prop :=
  ∃ done, Served host done ∧ h.events = host.events ++ done ∧ h.bridgeHost = host.bridgeHost ∧
    h.forceStop = host.forceStop ∧ h.restoreAccess = host.restoreAccess ∧
    h.restorations = host.restorations

theorem serves_of_frame {host h : HelperHost} (hframe : h = { host with stdin := h.stdin }) :
    Serves host h := by
  rw [hframe]
  exact ⟨[], .nothing, (List.append_nil _).symm, rfl, rfl, rfl, rfl⟩

theorem wp_verifyAndroidInput (host : HelperHost) :
    wp verifyAndroidInput
      (fun _ h => host.verify host.verifications = .ok () ∧
        h = { host with verifications := host.verifications + 1
                        events := host.events ++ [.verified (.ok ())] })
      (fun _ h => host.verify host.verifications ≠ .ok () ∧
        h = { host with
              verifications := host.verifications + 1
              events := host.events ++ [.verified (host.verify host.verifications)] }) host := by
  simp only [verifyAndroidInput, note, wp_bind, wp_get, wp_set, wp_modify]
  cases host.verify host.verifications with
  | ok u => exact ⟨rfl, rfl⟩
  | error error => exact ⟨by simp, rfl⟩

theorem wp_replyReady (host : HelperHost) :
    wp replyReady
      (fun _ h => (host.reply = .ok () ∧ host.flush = .ok ()) ∧
        h = { host with events := host.events ++ [.replied ANDROID_INPUT_READY_LINE] })
      (fun _ h => ¬ (host.reply = .ok () ∧ host.flush = .ok ()) ∧
        h = { host with events := host.events ++ [.replied ANDROID_INPUT_READY_LINE] }) host := by
  simp only [replyReady, note, wp_bind, wp_get, wp_modify]
  cases host.reply with
  | error error => exact ⟨by simp, rfl⟩
  | ok u =>
    cases host.flush with
    | error error => exact ⟨by simp, rfl⟩
    | ok u => exact ⟨⟨rfl, rfl⟩, rfl⟩

/-- **What the protocol does for an input**: it ends gracefully exactly if the input asks for it in
order. -/
theorem wp_serveHelperProtocol (host : HelperHost) :
    wp serveHelperProtocol
      (fun graceful h => (graceful = true ↔ Graceful host) ∧ Serves host h)
      (fun _ h => ¬ Graceful host ∧ Serves host h) host := by
  rw [serveHelperProtocol, serveLoop, wp_bind]
  refine wp_mono (wp_readHelperCommand host) ?_ ?_
  · rintro (_ | command) h₁ ⟨hframe₁, hstdin⟩
    · -- the input is over
      refine ⟨iff_of_false nofun ?_, serves_of_frame hframe₁⟩
      rw [Graceful, hstdin, List.prefix_nil, List.prefix_nil]
      rintro (h | ⟨h, -⟩)
      · exact absurd h (by decide +kernel)
      · exact absurd h (by decide +kernel)
    have hcleanup := @isPrefix_commandBytes_iff _ .cleanup _ _ hstdin
    cases command with
    | cleanup =>
      exact ⟨iff_of_true rfl (Or.inl (hcleanup.mpr rfl)), serves_of_frame hframe₁⟩
    | verifyAndroidInput =>
      obtain ⟨input, rfl⟩ : ∃ input, h₁ = { host with stdin := input } := ⟨_, hframe₁⟩
      have hgraceful : Graceful host ↔ CLEANUP_COMMAND <+: input ∧
          host.verify host.verifications = .ok () ∧ host.reply = .ok () ∧ host.flush = .ok () := by
        have hnot : ¬ CLEANUP_COMMAND <+: host.stdin := fun h => nomatch hcleanup.mp h
        rw [Graceful, or_iff_right hnot, ← hstdin]
        exact and_congr_left' (List.prefix_append_right_inj _)
      rw [hgraceful]
      simp only [Bool.false_eq_true, if_false, wp_bind]
      refine wp_mono (wp_verifyAndroidInput _) ?_ ?_
      · rintro _ h₂ ⟨hverified, rfl⟩
        have hreplied : Served host [.verified (.ok ()), .replied ANDROID_INPUT_READY_LINE] :=
          .replied hverified
        refine wp_mono (wp_replyReady _) ?_ ?_
        · rintro _ h₃ ⟨hwritten, rfl⟩
          refine wp_mono (wp_serveLoop_true _) ?_ ?_
          · rintro graceful h ⟨hframe, hiff⟩
            refine ⟨hiff.trans ⟨fun h => ⟨h, hverified, hwritten⟩, fun h => h.1⟩, ?_⟩
            rw [hframe]
            exact ⟨_, hreplied, List.append_assoc .., rfl, rfl, rfl, rfl⟩
          · rintro error h ⟨hframe, hnot⟩
            refine ⟨fun h => hnot h.1, ?_⟩
            rw [hframe]
            exact ⟨_, hreplied, List.append_assoc .., rfl, rfl, rfl, rfl⟩
        · rintro error h ⟨hunwritten, rfl⟩
          refine ⟨fun h => hunwritten h.2.2, ?_⟩
          exact ⟨_, hreplied, List.append_assoc .., rfl, rfl, rfl, rfl⟩
      · rintro error h ⟨hunverified, rfl⟩
        exact ⟨fun h => hunverified h.2.1, _, .verified, rfl, rfl, rfl, rfl, rfl⟩
  · rintro error h ⟨hframe, hnone⟩
    refine ⟨?_, serves_of_frame hframe⟩
    rintro (h | ⟨h, -⟩)
    · exact hnone .cleanup h
    · exact hnone .verifyAndroidInput ((List.prefix_append _ _).trans h)

/-! ### The teardown as a whole -/

def HelperEvent.isVerification : HelperEvent → Bool
  | .verified _ => true
  | _ => false

/-- The Android input is verified once at most. -/
def VerifiesOnce (events : List HelperEvent) : Prop :=
  (events.filter HelperEvent.isVerification).length ≤ 1

/-- A line is written only after a verification that succeeded. -/
def RepliesAfterSuccess (events : List HelperEvent) : Prop :=
  ∀ before line later, events = before ++ .replied line :: later → .verified (.ok ()) ∈ before

theorem Served.verifiesOnce {host : HelperHost} {done : List HelperEvent} (h : Served host done) :
    VerifiesOnce done := by
  cases h with
  | nothing => exact Nat.zero_le _
  | verified => exact le_rfl
  | replied h => exact le_rfl

theorem Served.repliesAfterSuccess {host : HelperHost} {done : List HelperEvent}
    (h : Served host done) : RepliesAfterSuccess done := by
  intro before line later hsplit
  cases h with
  | nothing => exact absurd hsplit.symm (List.append_ne_nil_of_right_ne_nil _ (List.cons_ne_nil _ _))
  | verified =>
    cases before with
    | nil => cases hsplit
    | cons e before =>
      have hrest := (List.cons.inj hsplit).2
      exact absurd hrest.symm (List.append_ne_nil_of_right_ne_nil _ (List.cons_ne_nil _ _))
  | replied h =>
    cases before with
    | nil => cases hsplit
    | cons e before => exact (List.cons.inj hsplit).1 ▸ List.mem_cons_self

theorem wp_stopUnlessGraceful (result : Except IoError Bool) (host : HelperHost) :
    let Stopped := fun h : HelperHost => h.bridgeHost = host.bridgeHost ∧
      (result = .ok true ∧ h.events = host.events ∨
        result ≠ .ok true ∧ h.events = host.events ++ [.forcedStop])
    wp (stopUnlessGraceful result) (fun _ h => Stopped h) (fun _ h => Stopped h) host := by
  have hstop : result ≠ .ok true →
      wp forceStopWaydroidContainer
        (fun _ h => h.bridgeHost = host.bridgeHost ∧ (result = .ok true ∧ h.events = host.events ∨
          result ≠ .ok true ∧ h.events = host.events ++ [.forcedStop]))
        (fun _ h => h.bridgeHost = host.bridgeHost ∧ (result = .ok true ∧ h.events = host.events ∨
          result ≠ .ok true ∧ h.events = host.events ++ [.forcedStop])) host := by
    intro hresult
    simp only [forceStopWaydroidContainer, note, wp_bind, wp_modify, wp_get]
    cases host.forceStop with
    | ok u => exact ⟨rfl, Or.inr ⟨hresult, rfl⟩⟩
    | error error => exact ⟨rfl, Or.inr ⟨hresult, rfl⟩⟩
  cases result with
  | error error => exact hstop (by simp)
  | ok graceful =>
    cases graceful with
    | false => exact hstop (by simp)
    | true => exact ⟨rfl, Or.inl ⟨rfl, rfl⟩⟩

/-- The bridge is cleaned up, whether that succeeds or not. -/
theorem wp_cleanupBridge (bridge : InstalledWaydroidBridge) (host : HelperHost) :
    let Cleaned := fun h : HelperHost => h.bridgeHost = after bridge.cleanup host.bridgeHost ∧
      h.events = host.events ++ [.bridgeCleanup]
    wp (cleanupBridge bridge) (fun _ h => Cleaned h) (fun _ h => Cleaned h) host := by
  simp only [cleanupBridge, note, wp_bind, wp_modify, wp_zoom]
  refine wp_mono (wp_self bridge.cleanup host.bridgeHost) ?_ ?_
  · intro u t hok
    rw [after, hok]
    exact ⟨rfl, trivial⟩
  · intro error t herror
    rw [after, herror]
    exact ⟨rfl, trivial⟩

theorem wp_restoreAccess (host : HelperHost) :
    let Restored := fun h : HelperHost => h.bridgeHost = host.bridgeHost ∧
      h.events = host.events ++ [.accessRestored]
    wp restoreAccess (fun _ h => Restored h) (fun _ h => Restored h) host := by
  simp only [restoreAccess, note, wp_bind, wp_get, wp_set, wp_modify]
  cases host.restoreAccess host.restorations with
  | ok u => exact ⟨rfl, rfl⟩
  | error error => exact ⟨rfl, rfl⟩

/-- The access is restored once, or twice if the first attempt fails. -/
theorem wp_cleanupAccess (host : HelperHost) :
    let Restored := fun h : HelperHost => h.bridgeHost = host.bridgeHost ∧
      ∃ accesses, (∀ event ∈ accesses, event = HelperEvent.accessRestored) ∧
        h.events = host.events ++ accesses
    wp cleanupAccess (fun _ h => Restored h) (fun _ h => Restored h) host := by
  simp only [cleanupAccess, wp_bind, wp_attempt]
  refine wp_mono (wp_restoreAccess host) ?_ ?_
  · rintro _ h ⟨hbridge, hevents⟩
    exact ⟨hbridge, _, by simp, hevents⟩
  · rintro error h ⟨hbridge, hevents⟩
    simp only [wp_throw]
    refine wp_mono (wp_restoreAccess h) ?_ ?_ <;> rintro _ h' ⟨hbridge', hevents'⟩
    all_goals
      rw [hevents, List.append_assoc] at hevents'
      exact ⟨hbridge'.trans hbridge, _, by simp, hevents'⟩

/-- What the helper has done when it exits. -/
structure TornDown (bridge : InstalledWaydroidBridge) (host h : HelperHost)
    (served stops accesses : List HelperEvent) : Prop where
  events : h.events = host.events ++ (served ++ stops ++ .bridgeCleanup :: accesses)
  served : Served host served
  stops : Graceful host ∧ stops = [] ∨ ¬ Graceful host ∧ stops = [.forcedStop]
  accesses : ∀ event ∈ accesses, event = .accessRestored
  bridge : h.bridgeHost = after bridge.cleanup host.bridgeHost

/-- From any end of the protocol on, the helper is torn down. -/
theorem wp_tearDown {bridge : InstalledWaydroidBridge} {result : Except IoError Bool}
    {host h₁ : HelperHost} (hresult : result = .ok true ↔ Graceful host)
    (hserves : Serves host h₁) :
    let Done := fun h => ∃ served stops accesses, TornDown bridge host h served stops accesses
    wp (tearDown bridge result) (fun _ h => Done h) (fun _ h => Done h) h₁ := by
  intro Done
  obtain ⟨served, hserved, hevents₁, hbridge₁, -⟩ := hserves
  have hstopped : ∀ h₂ : HelperHost, h₂.bridgeHost = h₁.bridgeHost ∧
      (result = .ok true ∧ h₂.events = h₁.events ∨
        result ≠ .ok true ∧ h₂.events = h₁.events ++ [.forcedStop]) →
      h₂.bridgeHost = host.bridgeHost ∧ ∃ stops,
        (Graceful host ∧ stops = [] ∨ ¬ Graceful host ∧ stops = [.forcedStop]) ∧
          h₂.events = host.events ++ (served ++ stops) := by
    rintro h₂ ⟨hbridge₂, hevents₂⟩
    refine ⟨hbridge₂.trans hbridge₁, ?_⟩
    rcases hevents₂ with ⟨hok, hevents₂⟩ | ⟨hfail, hevents₂⟩
    · refine ⟨[], Or.inl ⟨hresult.mp hok, rfl⟩, ?_⟩
      rw [hevents₂, hevents₁, List.append_nil]
    · refine ⟨[.forcedStop], Or.inr ⟨fun h => hfail (hresult.mpr h), rfl⟩, ?_⟩
      rw [hevents₂, hevents₁, List.append_assoc]
  have hend : ∀ h₄ : HelperHost, Done h₄ → ∀ cleanupResult : Except IoError Unit,
      wp (match result, cleanupResult with
        | .ok _, result => outcome result
        | .error protocolError, .ok () => throw protocolError
        | .error protocolError, .error cleanupError =>
          throw ⟨.other, "helper protocol failed: " ++ protocolError.detail ++
            "; cleanup also failed: " ++ cleanupError.detail⟩ : HelperM Unit)
        (fun _ h => Done h) (fun _ h => Done h) h₄ := by
    intro h₄ hdone cleanupResult
    cases result with
    | ok graceful => cases cleanupResult <;> exact hdone
    | error error => cases cleanupResult <;> exact hdone
  have hcleaned : ∀ h₂ h₃ : HelperHost, ∀ stops,
      h₂.bridgeHost = host.bridgeHost →
      (Graceful host ∧ stops = [] ∨ ¬ Graceful host ∧ stops = [.forcedStop]) →
      h₂.events = host.events ++ (served ++ stops) →
      (h₃.bridgeHost = after bridge.cleanup h₂.bridgeHost ∧
        h₃.events = h₂.events ++ [.bridgeCleanup]) →
      ∀ h₄ : HelperHost, (h₄.bridgeHost = h₃.bridgeHost ∧
        ∃ accesses, (∀ event ∈ accesses, event = HelperEvent.accessRestored) ∧
          h₄.events = h₃.events ++ accesses) → Done h₄ := by
    rintro h₂ h₃ stops hbridge₂ hstops hevents₂ ⟨hbridge₃, hevents₃⟩ h₄
      ⟨hbridge₄, accesses, haccesses, hevents₄⟩
    refine ⟨served, stops, accesses, ?_, hserved, hstops, haccesses, ?_⟩
    · rw [hevents₄, hevents₃, hevents₂]
      simp only [List.append_assoc, List.cons_append, List.nil_append]
    · rw [hbridge₄, hbridge₃, hbridge₂]
  -- whatever each attempt ends with, the next one is made
  simp only [tearDown, wp_bind, wp_attempt]
  refine wp_mono (wp_stopUnlessGraceful result h₁) ?_ ?_
  all_goals
    intro _ h₂ hstop
    obtain ⟨hbridge₂, stops, hstops, hevents₂⟩ := hstopped h₂ hstop
    refine wp_mono (wp_cleanupBridge bridge h₂) ?_ ?_
  all_goals
    intro _ h₃ hclean
    refine wp_mono (wp_cleanupAccess h₃) ?_ ?_
  all_goals
    intro _ h₄ haccess
    exact hend h₄ (hcleaned h₂ h₃ stops hbridge₂ hstops hevents₂ hclean h₄ haccess) _

theorem exists_tornDown (bridge : InstalledWaydroidBridge) (host : HelperHost) :
    ∃ served stops accesses,
      TornDown bridge host (after (runBridgeHelper bridge) host) served stops accesses := by
  refine wp_after (P := fun h : HelperHost => ∃ served stops accesses,
    TornDown bridge host h served stops accesses) ?_
  rw [runBridgeHelper, wp_bind, wp_attempt]
  refine wp_mono (wp_serveHelperProtocol host) ?_ ?_
  · rintro graceful h₁ ⟨hgraceful, hserves⟩
    exact wp_tearDown (by simpa using hgraceful) hserves
  · rintro error h₁ ⟨hgraceful, hserves⟩
    exact wp_tearDown (iff_of_false nofun hgraceful) hserves

/-- The protocol returns in order exactly for the inputs that ask for it. -/
theorem serveHelperProtocol_graceful_iff (host : HelperHost) :
    (∃ h, serveHelperProtocol host = .ok true h) ↔ Graceful host := by
  have hserves := wp_serveHelperProtocol host
  cases hresult : serveHelperProtocol host with
  | ok graceful h =>
    have hiff := (wp_ok hserves hresult).1
    rw [← hiff]
    constructor
    · rintro ⟨h', heq⟩
      exact (EStateM.Result.ok.inj heq).1
    · rintro rfl
      exact ⟨h, rfl⟩
  | error error h =>
    refine iff_of_false ?_ (wp_error hserves hresult).1
    rintro ⟨h', heq⟩
    cases heq

/-- **Whatever the input is and however the verification ends, the helper verifies once at most
and reports only a success; it comes to its end in order exactly if it is asked to after nothing
but valid commands, and stops the container otherwise; and it cleans the bridge up.**  With nothing
in the way the cleanup leaves both configuration files without the bridge. -/
theorem helper_serves_and_tears_down (bridge : InstalledWaydroidBridge) (host : HelperHost) :
    ((∃ h, serveHelperProtocol host = .ok true h) ↔ Graceful host) ∧
    (∃ served stops accesses, VerifiesOnce served ∧ RepliesAfterSuccess served ∧
      (Graceful host ∧ stops = [] ∨ ¬ Graceful host ∧ stops = [.forcedStop]) ∧
      (∀ event ∈ accesses, event = HelperEvent.accessRestored) ∧
      (after (runBridgeHelper bridge) host).events =
        host.events ++ (served ++ stops ++ .bridgeCleanup :: accesses)) ∧
    ((after (runBridgeHelper bridge) host).bridgeHost = after bridge.cleanup host.bridgeHost ∧
      (Clear host.bridgeHost → ∀ text : String,
        host.bridgeHost.seen .main = some (some text.toUTF8) →
        let cleaned := (after (runBridgeHelper bridge) host).bridgeHost
        cleaned.seen .managed = bridge.originalManaged.map some ∧
          cleaned.seen .main = some (some (if bridge.includeAdded then
            withoutInclude bridge.paths text else text).toUTF8))) := by
  obtain ⟨served, stops, accesses, hdown⟩ := exists_tornDown bridge host
  refine ⟨serveHelperProtocol_graceful_iff host, ?_, hdown.bridge, ?_⟩
  · exact ⟨served, stops, accesses, hdown.served.verifiesOnce, hdown.served.repliesAfterSuccess,
      hdown.stops, hdown.accesses, hdown.events⟩
  intro hclear text hmain cleaned
  obtain ⟨u, hcleanup⟩ := exists_cleanup bridge hclear hmain
  obtain ⟨hmanaged, hkept, hremoved⟩ := wp_ok (bridge.wp_cleanup host.bridgeHost) hcleanup
  have hcleaned : cleaned = u := hdown.bridge.trans (by rw [after, hcleanup])
  rw [hcleaned]
  refine ⟨hmanaged, ?_⟩
  cases hadded : bridge.includeAdded with
  | false =>
    rw [hkept hadded, hmain]
    rfl
  | true =>
    obtain ⟨text', htext', hmain'⟩ := hremoved hadded
    rw [hmain, Option.some.injEq, Option.some.injEq, String.toUTF8_eq_toByteArray,
      String.toUTF8_eq_toByteArray, String.toByteArray_inj] at htext'
    rw [hmain', htext']
    rfl

end PrivilegedBridge

end Wroid
