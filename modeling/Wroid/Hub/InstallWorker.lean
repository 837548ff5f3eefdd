import Wroid.Hub.Requests
import Wroid.Hub.Sideload
import Wroid.Lib.JsonReader

/-!
# How an installation ends

The worker of `hub.rs` that installs a package, step by step, when any step may fail.  It marks
the ticket as installing, runs the installer, removes the package and the lock, and then writes how
the installation ended.  It leaves early, with the lock in place, when the package is not what it
was or the first status cannot be written; and the last status is refused when the error has grown
too long in the JSON text.

The temporary files of the statuses are left out, and so are the files of other tickets.

## Main definitions

* `StatusWrite`, `WorkerHost` — what the system answers.
* `runApkInstallWorkerWith` — the worker.
* `Finished` — the lock is gone, and the status says how the installation ended.
* `Cleans`, `Fits` — the worker gets to its cleanup; the status of a failure is not too long.

## Main results

* `writeApkInstallStatus_rule` — what holds after a status is written, or not.
* `solo_runApkInstallWorkerWith` — without faults the worker is the one of the concurrent system.
* `worker_finishes_iff` — **a worker leaves a final status exactly if it gets to its cleanup and the
  status of a failure fits**.
-/

namespace Wroid.InstallWorker

open Lib HubRequests

/-! ### The worker -/

/-- How the steps of writing a status end, and the time. -/
structure StatusWrite where
  directory : Except String Unit
  clock : UInt64
  token : Except String Unit
  create : Except IoError Unit
  write : Except IoError Unit
  flush : Except IoError Unit
  sync : Except IoError Unit
  rename : Except IoError Unit
  secure : Except IoError Unit

/-- What the system answers.  The package that is there may be another kind of file. -/
structure WorkerHost where
  directory : Except String Unit
  isRegular : Except IoError Bool
  installing : StatusWrite
  preflight : Except String Unit
  validated : Except String Unit
  installer : Except String Unit
  removeArtifact : Except IoError Unit
  removeLock : Except IoError Unit
  ending : StatusWrite

section Worker

variable (directory ticket : String)

def checkTicket : Except String Unit :=
  if isValidSideloadTicket ticket then .ok () else .error "invalid sideload ticket"

def statusOf (io : StatusWrite) (state : ApkState) (detail : String) : ApkStatus :=
  ⟨state, boundedApkStatusDetail detail, io.clock.toNat⟩

/-- The status is not too long for its file. -/
def Fits (status : ApkStatus) : Prop := utf8Size (status.encode ticket) ≤ APK_STATUS_BYTES

instance (status : ApkStatus) : Decidable (Fits ticket status) := inferInstanceAs (Decidable (_ ≤ _))

def writeApkInstallStatus (io : StatusWrite) (state : ApkState) (detail : String) :
    EStateM String SideloadFiles Unit := do
  let failed := s!"failed to write APK install status {directory}/{ticket}.json"
  let status := statusOf io state detail
  ofAnswer io.directory
  ofAnswer (checkTicket ticket)
  ofAnswer (if Fits ticket status then .ok () else .error "APK install status is too large")
  ofAnswer io.token
  ofAnswer (withContext failed io.create)
  ofAnswer (withContext failed io.write)
  ofAnswer (withContext failed io.flush)
  ofAnswer (withContext failed io.sync)
  ofAnswer (withContext failed io.rename)
  modify fun files => { files with status := some status }
  ofAnswer (withContext failed io.secure)

variable (host : WorkerHost)

/-- The package is there and a regular file. -/
def inspectArtifact : EStateM String SideloadFiles Unit := do
  let files ← get
  let notFound := s!"APK sideload ticket {ticket} was not found"
  ofAnswer (if files.artifact then .ok () else .error notFound)
  let isRegular ← ofAnswer (withContext notFound host.isRegular)
  ofAnswer (if isRegular then .ok () else .error "staged APK is not a regular private file")

/-- The second look at the package, and the installer. -/
def WorkerHost.install : Except String Unit := do
  host.preflight
  host.validated
  host.installer

def removeArtifact : EStateM String SideloadFiles Unit :=
  modify fun files => if host.removeArtifact = .ok () then { files with artifact := false } else files

def removeLock : EStateM String SideloadFiles Unit :=
  modify fun files => if host.removeLock = .ok () then { files with lock := none } else files

/-- The status of the end. -/
def writeEnding : EStateM String SideloadFiles Unit :=
  match host.install with
  | .ok _ =>
    writeApkInstallStatus directory ticket host.ending .installed "Installed APK into Waydroid"
  | .error detail => do
    writeApkInstallStatus directory ticket host.ending .failed detail
    throw detail

/-- What is done once the installer has come back. -/
def cleanUp : EStateM String SideloadFiles Unit := do
  removeArtifact host
  removeLock host
  writeEnding directory ticket host

def runApkInstallWorkerWith : EStateM String SideloadFiles Unit := do
  ofAnswer host.directory
  ofAnswer (checkTicket ticket)
  inspectArtifact ticket host
  writeApkInstallStatus directory ticket host.installing .installing "Installing into Waydroid"
  cleanUp directory ticket host

end Worker

/-! ### How it ends -/

/-- No step of the writing fails. -/
structure StatusWrite.Works (io : StatusWrite) : Prop where
  directory : io.directory = .ok ()
  token : io.token = .ok ()
  create : io.create = .ok ()
  write : io.write = .ok ()
  flush : io.flush = .ok ()
  sync : io.sync = .ok ()
  rename : io.rename = .ok ()
  secure : io.secure = .ok ()

/-- The ticket has been claimed. -/
structure Claimed (ticket : String) (files : SideloadFiles) : Prop where
  ticket : isValidSideloadTicket ticket = true
  lock : files.lock ≠ none
  state : files.state = some .queued

/-- The directory can be written to when the installer has come back. -/
structure WorkerHost.Writable (host : WorkerHost) : Prop where
  removeLock : host.removeLock = .ok ()
  ending : host.ending.Works

/-- The lock is gone, and the status says how the installation ended. -/
structure Finished (host : WorkerHost) (files : SideloadFiles) : Prop where
  lock : files.lock = none
  final : files.state = some .installed ∨ files.state = some .failed
  honest : files.state = some .installed → host.install = .ok ()

/-- The worker gets to its cleanup. -/
structure Cleans (host : WorkerHost) (files : SideloadFiles) : Prop where
  directory : host.directory = .ok ()
  artifact : files.artifact = true
  isRegular : host.isRegular = .ok true
  installing : host.installing.Works

/-- The installation succeeds, or the status of its failure is not too long. -/
def Reportable (ticket : String) (host : WorkerHost) : Prop :=
  ∀ detail, host.install = .error detail → Fits ticket (statusOf host.ending .failed detail)

section Rules

variable {io : StatusWrite} {host : WorkerHost} {directory ticket detail : String}
  {state : ApkState} {files : SideloadFiles}

theorem wp_answer {α : Type} {message : String} {answer : Except IoError α} {s : SideloadFiles}
    {Q : α → SideloadFiles → Prop} {R : String → SideloadFiles → Prop} :
    wp (ofAnswer (withContext message answer)) Q R s ↔
      (∀ a, answer = .ok a → Q a s) ∧ ∀ e, answer = .error e → R message s := by
  cases answer with
  | ok a => simp [withContext, Except.mapError]
  | error e => simp [withContext, Except.mapError]

theorem wp_check {c : Prop} [Decidable c] {message : String} {s : SideloadFiles}
    {Q : Unit → SideloadFiles → Prop} {R : String → SideloadFiles → Prop} :
    wp (ofAnswer (if c then .ok () else .error message)) Q R s ↔
      (c → Q () s) ∧ (¬ c → R message s) := by
  by_cases hc : c
  · simp [hc, ofAnswer]
  · simp [hc, ofAnswer]

/-- What holds after the writing of a status: whatever holds of the files with it if every step
works, and of the files with or without it if one does not. -/
theorem writeApkInstallStatus_rule {Q : Unit → SideloadFiles → Prop}
    {R : String → SideloadFiles → Prop} (hticket : isValidSideloadTicket ticket = true)
    (hok : io.Works → Fits ticket (statusOf io state detail) →
      Q () { files with status := some (statusOf io state detail) })
    (hunwritten : ¬ (io.Works ∧ Fits ticket (statusOf io state detail)) → ∀ message, R message files)
    (hwritten : ¬ io.Works →
      ∀ message, R message { files with status := some (statusOf io state detail) }) :
    wp (writeApkInstallStatus directory ticket io state detail) Q R files := by
  have hfails : ¬ io.Works → ∀ message, R message files :=
    fun h => hunwritten fun hboth => h hboth.1
  unfold writeApkInstallStatus checkTicket
  simp only [wp_bind]
  rw [wp_ofAnswer]
  refine ⟨fun _ hdirectory => ?_, fun e he => hfails (fun h => ?_) e⟩
  · rw [wp_check]
    refine ⟨fun _ => ?_, fun h => absurd hticket h⟩
    rw [wp_check]
    refine ⟨fun hfits => ?_, fun h => hunwritten (fun hboth => h hboth.2) _⟩
    rw [wp_ofAnswer]
    refine ⟨fun _ htoken => ?_, fun e he => hfails (fun h => ?_) e⟩
    · simp only [wp_answer, wp_modify]
      refine ⟨fun _ hcreate => ⟨fun _ hwrite => ⟨fun _ hflush => ⟨fun _ hsync => ⟨fun _ hrename =>
        ⟨fun _ hsecure => ?_, ?_⟩, ?_⟩, ?_⟩, ?_⟩, ?_⟩, ?_⟩
      · exact hok ⟨hdirectory, htoken, hcreate, hwrite, hflush, hsync, hrename, hsecure⟩ hfits
      · exact fun e he => hwritten (fun h => by simp [h.secure] at he) _
      · exact fun e he => hfails (fun h => by simp [h.rename] at he) _
      · exact fun e he => hfails (fun h => by simp [h.sync] at he) _
      · exact fun e he => hfails (fun h => by simp [h.flush] at he) _
      · exact fun e he => hfails (fun h => by simp [h.write] at he) _
      · exact fun e he => hfails (fun h => by simp [h.create] at he) _
    · simp [h.token] at he
  · simp [h.directory] at he

/-- Apart from the detail a status takes little space. -/
theorem fits_of_escapedSize (hticket : isValidSideloadTicket ticket = true)
    (h : escapedSize (boundedApkStatusDetail detail) ≤ 15000) :
    Fits ticket (statusOf io state detail) := by
  have hlength : ticket.toList.length ≤ 48 := by
    have hsize : utf8Size ticket.toList = 48 := by simpa using (Bool.and_eq_true_iff.mp hticket).1
    rw [← hsize]
    exact length_le_utf8Size ticket.toList
  have hescaped := escapedSize_le ticket
  have hclock : utf8Size (jsonNat io.clock.toNat) ≤ 20 := by
    have hlt := io.clock.toNat_lt
    exact utf8Size_jsonNat_le (by decide) (by omega)
  have hname : escapedSize state.name ≤ 10 := by cases state <;> decide +kernel
  have hbool : ∀ b, utf8Size (jsonBool b) ≤ 5 := by decide +kernel
  have hdetail : escapedSize "detail" = 6 := by decide +kernel
  have hok : escapedSize "ok" = 2 := by decide +kernel
  have hstate : escapedSize "state" = 5 := by decide +kernel
  have hticketName : escapedSize "ticket" = 6 := by decide +kernel
  have hupdated : escapedSize "updatedAtUnixMs" = 15 := by decide +kernel
  have hsucceeded := hbool (decide ((statusOf io state detail).state ≠ .failed))
  rw [Fits, ApkStatus.encode, utf8Size_jsonObject]
  simp only [statusOf] at hsucceeded
  simp only [statusOf, List.map_cons, List.map_nil, List.sum_cons, List.sum_nil, List.length_cons,
    List.length_nil, utf8Size_jsonString, hdetail, hok, hstate, hticketName, hupdated]
  unfold APK_STATUS_BYTES
  omega

theorem fits_installing (hticket : isValidSideloadTicket ticket = true) :
    Fits ticket (statusOf io .installing "Installing into Waydroid") :=
  fits_of_escapedSize hticket (by decide +kernel)

theorem fits_installed (hticket : isValidSideloadTicket ticket = true) :
    Fits ticket (statusOf io .installed "Installed APK into Waydroid") :=
  fits_of_escapedSize hticket (by decide +kernel)

/-- How the last status is written. -/
theorem wp_writeEnding (hticket : isValidSideloadTicket ticket = true) (hworks : host.ending.Works)
    (hstate : files.state = some .installing) :
    wp (writeEnding directory ticket host)
      (fun _ files' => Reportable ticket host ∧ files'.lock = files.lock ∧
        files'.state = some .installed ∧ host.install = .ok ())
      (fun _ files' => files'.lock = files.lock ∧
        (Reportable ticket host ∧ files'.state = some .failed ∨
          ¬ Reportable ticket host ∧ files'.state = some .installing)) files := by
  unfold writeEnding
  cases hinstall : host.install with
  | ok _ =>
    refine writeApkInstallStatus_rule hticket (fun _ _ => ?_) (fun h => ?_) fun h => ?_
    · exact ⟨fun detail h => by rw [hinstall] at h; contradiction, rfl, rfl, rfl⟩
    · exact absurd ⟨hworks, fits_installed hticket⟩ h
    · exact absurd hworks h
  | error detail =>
    have hreportable : Reportable ticket host ↔ Fits ticket (statusOf host.ending .failed detail) := by
      refine ⟨fun h => h detail hinstall, fun h detail' hdetail' => ?_⟩
      rw [hinstall, Except.error.injEq] at hdetail'
      rwa [← hdetail']
    rw [wp_bind]
    refine writeApkInstallStatus_rule hticket (fun _ hfits => ?_) (fun h _ => ?_) fun h => ?_
    · exact ⟨rfl, .inl ⟨hreportable.mpr hfits, rfl⟩⟩
    · exact ⟨rfl, .inr ⟨fun hfits => h ⟨hworks, hreportable.mp hfits⟩, hstate⟩⟩
    · exact absurd hworks h

theorem not_finished_of_installing (h : files.state = some .installing) : ¬ Finished host files := by
  intro hfinished
  rcases hfinished.final with hfinal | hfinal
  · exact absurd (h.symm.trans hfinal) (by decide)
  · exact absurd (h.symm.trans hfinal) (by decide)

/-- A worker that cleans up finishes if it can report. -/
theorem wp_cleanUp (hticket : isValidSideloadTicket ticket = true) (hwritable : host.Writable)
    (hstate : files.state = some .installing) :
    wp (cleanUp directory ticket host) (fun _ files' => Reportable ticket host ↔ Finished host files')
      (fun _ files' => Reportable ticket host ↔ Finished host files') files := by
  unfold cleanUp removeArtifact removeLock
  simp only [wp_bind, wp_modify]
  rw [if_pos hwritable.removeLock]
  refine wp_mono (wp_writeEnding hticket hwritable.ending ?_) ?_ ?_
  · split_ifs
    · exact hstate
    · exact hstate
  · intro _ t ht
    obtain ⟨hreportable, hlock, hfinal, hinstall⟩ := ht
    exact iff_of_true hreportable ⟨hlock, .inl hfinal, fun _ => hinstall⟩
  · intro _ t ht
    obtain ⟨hlock, ⟨hreportable, hfinal⟩ | ⟨hreportable, hfinal⟩⟩ := ht
    · refine iff_of_true hreportable ⟨hlock, .inr hfinal, fun h => ?_⟩
      exact absurd (hfinal.symm.trans h) (by decide)
    · exact iff_of_false hreportable (not_finished_of_installing hfinal)

/-- What the worker leaves behind. -/
theorem wp_runApkInstallWorkerWith (hclaimed : Claimed ticket files) (hwritable : host.Writable) :
    wp (runApkInstallWorkerWith directory ticket host)
      (fun _ files' => Finished host files' ↔ Cleans host files ∧ Reportable ticket host)
      (fun _ files' => Finished host files' ↔ Cleans host files ∧ Reportable ticket host) files := by
  -- whoever leaves early leaves the lock
  have hearly : ∀ files' : SideloadFiles, ¬ Cleans host files → files'.lock = files.lock →
      (Finished host files' ↔ Cleans host files ∧ Reportable ticket host) := by
    intro files' h hlock
    refine iff_of_false (fun hfinished => ?_) fun hboth => h hboth.1
    exact hclaimed.lock (hlock.symm.trans hfinished.lock)
  unfold runApkInstallWorkerWith inspectArtifact checkTicket
  simp only [wp_bind, wp_get, wp_check, wp_answer]
  rw [wp_ofAnswer]
  refine ⟨fun _ hdirectory => ⟨fun _ => ⟨fun hartifact => ⟨fun regular hregular =>
    ⟨fun htrue => ?_, ?_⟩, ?_⟩, ?_⟩, ?_⟩, ?_⟩
  · rw [htrue] at hregular
    refine writeApkInstallStatus_rule hclaimed.ticket (fun hworks _ => ?_) (fun h _ => ?_)
      fun h _ => ?_
    · have hcleans : Cleans host files := ⟨hdirectory, hartifact, hregular, hworks⟩
      refine wp_mono (wp_cleanUp hclaimed.ticket hwritable rfl) ?_ ?_
      · exact fun _ t h => ⟨fun hfinished => ⟨hcleans, h.mpr hfinished⟩, fun hboth => h.mp hboth.2⟩
      · exact fun _ t h => ⟨fun hfinished => ⟨hcleans, h.mpr hfinished⟩, fun hboth => h.mp hboth.2⟩
    · exact hearly _ (fun hcleans => h ⟨hcleans.installing, fits_installing hclaimed.ticket⟩) rfl
    · exact hearly _ (fun hcleans => h hcleans.installing) rfl
  · intro hfalse
    refine hearly files (fun hcleans => hfalse ?_) rfl
    rw [hcleans.isRegular, Except.ok.injEq] at hregular
    exact hregular.symm
  · intro e he
    refine hearly files (fun hcleans => ?_) rfl
    rw [hcleans.isRegular] at he
    contradiction
  · exact fun hartifact => hearly files (fun hcleans => hartifact hcleans.artifact) rfl
  · exact fun h => absurd hclaimed.ticket h
  · intro e he
    refine hearly files (fun hcleans => ?_) rfl
    rw [hcleans.directory] at he
    contradiction

/-- **A worker leaves a final status exactly if it gets to its cleanup and the status of a failure
fits.** -/
theorem worker_finishes_iff (hclaimed : Claimed ticket files) (hwritable : host.Writable) :
    Finished host (after (runApkInstallWorkerWith directory ticket host) files) ↔
      Cleans host files ∧ Reportable ticket host :=
  wp_after (wp_runApkInstallWorkerWith hclaimed hwritable)

end Rules

/-! ### The worker of the concurrent system -/

section Solo

variable {io : StatusWrite} {host : WorkerHost} {directory ticket detail : String}
  {state : ApkState} {files : SideloadFiles} {pid : ℕ}

/-- Nothing fails but the installer. -/
structure WorkerHost.Faultless (host : WorkerHost) : Prop extends host.Writable where
  directory : host.directory = .ok ()
  isRegular : host.isRegular = .ok true
  installing : host.installing.Works
  removeArtifact : host.removeArtifact = .ok ()

theorem solo_write (hfits : Fits ticket (statusOf io state detail)) :
    Solo (SideloadOp.Exec pid) (Wroid.writeApkInstallStatus directory ticket state detail) files
      (.done (.ok ())) { files with status := some (statusOf io state detail) } := by
  have hsize : ¬ APK_STATUS_BYTES < utf8Size ((⟨state, boundedApkStatusDetail detail,
    io.clock.toNat⟩ : ApkStatus).encode ticket) := Nat.not_lt.mpr hfits
  simp only [Wroid.writeApkInstallStatus, SideloadOp.call, Program.call_bind]
  have hclock : SideloadOp.Exec pid files .clock io.clock.toNat files := rfl
  have hrename : SideloadOp.Exec pid files (.renameStatus (statusOf io state detail)) ()
    { files with status := some (statusOf io state detail) } := rfl
  have hsecure : SideloadOp.Exec pid { files with status := some (statusOf io state detail) }
    .secureStatus true { files with status := some (statusOf io state detail) } := ⟨rfl, rfl⟩
  refine .perform hclock ?_
  rw [if_neg hsize]
  exact .perform hrename (.perform hsecure (.refl ..))

theorem solo_write_refused (hfits : ¬ Fits ticket (statusOf io state detail)) :
    Solo (SideloadOp.Exec pid) (Wroid.writeApkInstallStatus directory ticket state detail) files
      (.done (.error "APK install status is too large")) files := by
  have hsize : APK_STATUS_BYTES < utf8Size ((⟨state, boundedApkStatusDetail detail,
    io.clock.toNat⟩ : ApkStatus).encode ticket) := Nat.not_le.mp hfits
  simp only [Wroid.writeApkInstallStatus, SideloadOp.call, Program.call_bind]
  have hclock : SideloadOp.Exec pid files .clock io.clock.toNat files := rfl
  refine .perform hclock ?_
  rw [if_pos hsize]
  exact .refl ..

/-- The files after a worker that cleans up. -/
def ended (ticket : String) (host : WorkerHost) : SideloadFiles where
  lock := none
  artifact := false
  status := some <| match host.install with
    | .ok _ => statusOf host.ending .installed "Installed APK into Waydroid"
    | .error detail =>
      if Fits ticket (statusOf host.ending .failed detail) then
        statusOf host.ending .failed detail
      else statusOf host.installing .installing "Installing into Waydroid"

theorem after_eq_ended (hticket : isValidSideloadTicket ticket = true) (hfaultless : host.Faultless)
    (hartifact : files.artifact = true) :
    after (runApkInstallWorkerWith directory ticket host) files = ended ticket host := by
  refine @wp_after _ _ _ _ _ (fun t => t = ended ticket host) ?_
  simp only [runApkInstallWorkerWith, inspectArtifact, checkTicket, cleanUp, removeArtifact,
    removeLock, hticket, hfaultless.directory, hfaultless.isRegular, hfaultless.removeArtifact,
    hfaultless.removeLock, hartifact, withContext, Except.mapError, ofAnswer, wp_bind, wp_get,
    wp_pure, wp_modify, if_true]
  refine writeApkInstallStatus_rule hticket (fun _ _ => ?_)
    (fun h => absurd ⟨hfaultless.installing, fits_installing hticket⟩ h)
    fun h => absurd hfaultless.installing h
  unfold writeEnding ended
  cases hinstall : host.install with
  | ok _ =>
    exact writeApkInstallStatus_rule hticket (fun _ _ => rfl)
      (fun h => absurd ⟨hfaultless.ending, fits_installed hticket⟩ h)
      fun h => absurd hfaultless.ending h
  | error detail =>
    simp only [wp_bind, wp_throw]
    refine writeApkInstallStatus_rule hticket (fun _ hfits => ?_) (fun h _ => ?_)
      fun h => absurd hfaultless.ending h
    · rw [if_pos hfits]
    · rw [if_neg fun hfits => h ⟨hfaultless.ending, hfits⟩]

/-- **Without faults of the system the worker is the one of the concurrent system.** -/
theorem solo_runApkInstallWorkerWith (hticket : isValidSideloadTicket ticket = true)
    (hfaultless : host.Faultless) (hartifact : files.artifact = true) :
    ∃ reply, Solo (SideloadOp.Exec pid) (Wroid.runApkInstallWorkerWith directory ticket) files
      (.done reply) (after (runApkInstallWorkerWith directory ticket host) files) := by
  rw [after_eq_ended hticket hfaultless hartifact]
  have hbegin := @solo_write host.installing directory ticket "Installing into Waydroid" .installing
    files pid (fits_installing hticket)
  -- what is left of the worker when the installer has come back
  have hreturned : ∀ {reply : Except String SideloadReply} {rest : Except String Unit →
      SideloadProgram (Except String SideloadReply)}, Solo (SideloadOp.Exec pid) (rest host.install)
        ⟨none, some (statusOf host.installing .installing "Installing into Waydroid"), false⟩
        (.done reply) (ended ticket host) →
      Solo (SideloadOp.Exec pid) (do
          let result ← SideloadOp.call .install
          let _ ← SideloadOp.call .removeArtifact
          let _ ← SideloadOp.call .removeLock
          rest result)
        { files with status := some (statusOf host.installing .installing "Installing into Waydroid") }
        (.done reply) (ended ticket host) := by
    intro reply rest hrest
    have hinstall : SideloadOp.Exec pid ⟨files.lock, some (statusOf host.installing .installing
      "Installing into Waydroid"), files.artifact⟩ .install host.install _ := rfl
    have hremove : SideloadOp.Exec pid ⟨files.lock, some (statusOf host.installing .installing
      "Installing into Waydroid"), files.artifact⟩ .removeArtifact files.artifact _ := ⟨rfl, rfl⟩
    have hunlock : SideloadOp.Exec pid ⟨files.lock, some (statusOf host.installing .installing
      "Installing into Waydroid"), false⟩ .removeLock files.lock.isSome _ := ⟨rfl, rfl⟩
    exact .perform hinstall (.perform hremove (.perform hunlock hrest))
  have hinspect : SideloadOp.Exec pid files .inspectArtifact true files := ⟨hartifact.symm, rfl⟩
  unfold Wroid.runApkInstallWorkerWith
  cases hinstall : host.install with
  | ok _ =>
    refine ⟨.ok .installed, ?_⟩
    refine .perform hinspect ((hbegin.bind _).trans (hreturned ?_))
    have hwrite := @solo_write host.ending directory ticket "Installed APK into Waydroid" .installed
      ⟨none, some (statusOf host.installing .installing "Installing into Waydroid"), false⟩ pid
      (fits_installed hticket)
    rw [hinstall]
    refine ((hwrite.bind _).trans ?_)
    rw [ended, hinstall]
    exact .refl ..
  | error detail =>
    by_cases hfits : Fits ticket (statusOf host.ending .failed detail)
    · refine ⟨.error detail, ?_⟩
      refine .perform hinspect ((hbegin.bind _).trans (hreturned ?_))
      have hwrite := @solo_write host.ending directory ticket detail .failed
        ⟨none, some (statusOf host.installing .installing "Installing into Waydroid"), false⟩ pid hfits
      rw [hinstall]
      refine ((hwrite.bind _).trans ?_)
      rw [ended, hinstall]
      simp only [if_pos hfits]
      exact .refl ..
    · refine ⟨.error "APK install status is too large", ?_⟩
      refine .perform hinspect ((hbegin.bind _).trans (hreturned ?_))
      have hwrite := @solo_write_refused host.ending directory ticket detail .failed
        ⟨none, some (statusOf host.installing .installing "Installing into Waydroid"), false⟩ pid hfits
      rw [hinstall]
      refine ((hwrite.bind _).trans ?_)
      rw [ended, hinstall]
      simp only [if_neg hfits]
      exact .refl ..

end Solo

/-! ### Errors that do not fit -/

theorem takeBytes_eq_self {limit : ℕ} {text : List Char} (h : utf8Size text ≤ limit) :
    takeBytes limit text = text := by
  induction text generalizing limit with
  | nil => rfl
  | cons c text ih =>
    rw [utf8Size_cons] at h
    have hc : c.utf8Size ≤ limit := by omega
    rw [takeBytes, if_pos hc, ih (by omega)]

/-- An error of control characters, as long as a detail may be. -/
def controls : String := .ofList (List.replicate APK_STATUS_DETAIL_BYTES '\x01')

theorem boundedApkStatusDetail_controls : boundedApkStatusDetail controls = controls := by
  have hsize : utf8Size (List.replicate APK_STATUS_DETAIL_BYTES '\x01') ≤ APK_STATUS_DETAIL_BYTES := by
    have hone : ('\x01').utf8Size = 1 := by decide
    rw [utf8Size, List.map_replicate, List.sum_replicate, hone, smul_eq_mul, mul_one]
  rw [boundedApkStatusDetail, controls, String.toList_ofList, takeBytes_eq_self hsize]

theorem escapedSize_controls : escapedSize controls = 24576 := by
  have hsix : utf8Size (escapeChar '\x01') = 6 := by decide +kernel
  rw [escapedSize, controls, String.toList_ofList, List.map_replicate, List.sum_replicate, hsix,
    smul_eq_mul, APK_STATUS_DETAIL_BYTES]

theorem not_fits_of_escapedSize {io : StatusWrite} {state : ApkState} {ticket detail : String}
    (h : APK_STATUS_BYTES ≤ escapedSize (boundedApkStatusDetail detail)) :
    ¬ Fits ticket (statusOf io state detail) := by
  rw [Fits, ApkStatus.encode, utf8Size_jsonObject, statusOf]
  simp only [List.map_cons, List.sum_cons, utf8Size_jsonString]
  omega

/-- Such an error is cut to its length, but its JSON text is six times as long. -/
theorem not_fits_controls {io : StatusWrite} {state : ApkState} {ticket : String} :
    ¬ Fits ticket (statusOf io state controls) := by
  refine not_fits_of_escapedSize ?_
  rw [boundedApkStatusDetail_controls, escapedSize_controls]
  decide

/-! ### A failed installation, and a missing package -/

def sampleWrite : StatusWrite :=
  ⟨.ok (), 1700000000000, .ok (), .ok (), .ok (), .ok (), .ok (), .ok (), .ok ()⟩

/-- The installer fails. -/
def sampleHost : WorkerHost where
  directory := .ok ()
  isRegular := .ok true
  installing := sampleWrite
  preflight := .ok ()
  validated := .ok ()
  installer := .error "Waydroid is not running"
  removeArtifact := .ok ()
  removeLock := .ok ()
  ending := sampleWrite

def sampleTicket : String := "0123456789abcdef0123456789abcdef0123456789abcdef"

/-- A ticket that has been claimed. -/
def sampleFiles (artifact : Bool) : SideloadFiles :=
  ⟨some 7, some ⟨.queued, "Install worker queued", 1700000000000⟩, artifact⟩

theorem sample_claimed (artifact : Bool) : Claimed sampleTicket (sampleFiles artifact) :=
  ⟨by decide +kernel, by simp [sampleFiles], rfl⟩

theorem sample_writable : sampleHost.Writable :=
  ⟨rfl, rfl, rfl, rfl, rfl, rfl, rfl, rfl, rfl⟩

theorem worker_finishes_iff_failed : Finished sampleHost
    (after (runApkInstallWorkerWith "/sideload" sampleTicket sampleHost) (sampleFiles true)) := by
  refine (worker_finishes_iff (sample_claimed true) sample_writable).mpr ⟨?_, ?_⟩
  · exact ⟨rfl, rfl, rfl, sample_writable.ending⟩
  · intro detail hdetail
    obtain rfl : "Waydroid is not running" = detail := Except.error.inj hdetail
    decide +kernel

/-- Without the package the worker leaves the lock and the status. -/
theorem missing_package_stays_queued : Claimed sampleTicket (sampleFiles false) ∧
    sampleHost.Writable ∧ ¬ Finished sampleHost
      (after (runApkInstallWorkerWith "/sideload" sampleTicket sampleHost) (sampleFiles false)) := by
  refine ⟨sample_claimed false, sample_writable, fun h => ?_⟩
  have hlock : (after (runApkInstallWorkerWith "/sideload" sampleTicket sampleHost)
      (sampleFiles false)).lock = some 7 := by decide +kernel
  rw [h.lock] at hlock
  contradiction

end Wroid.InstallWorker
