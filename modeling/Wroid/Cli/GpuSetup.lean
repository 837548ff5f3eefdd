import Wroid.Cli.IniFile
import Wroid.Cli.Request
import Wroid.Lib.Fallible
import Wroid.Lib.Streams

/-!
# Choosing the graphics device of the container

The device is a setting in the configuration of the container.  It is written to the file first,
and a command then applies the file to the container.  When the command does not succeed the text
that was in the file is written back; when the command cannot even be started it is not.

The command and the files of the system are the `GpuHost`, which answers for each step.  The
command itself does not write the configuration.

## Main definitions

* `probeDrmDevices`, `supportedDevice` — the devices there are, and whether one may be chosen.
* `writeAtomic` — a file is written next to the other one and renamed.
* `configureWaydroidGpu` — the whole change.
* `DeviceSet` — the configuration chooses the device.
* `Stranded` — everything works until the command cannot be started.

## Main results

* `wp_writeAtomic` — the configuration has the new text exactly if no error is reported.
* `configure_rolls_back_iff` — **an error leaves the configuration as it was unless the command
  cannot be started, and without an error the device is chosen**.
-/

namespace Wroid.GpuSetup

open Lib IniFile

def WAYDROID_CONFIG : String := "/var/lib/waydroid/waydroid.cfg"

/-! ### Devices -/

structure DrmDevice where
  card : String
  renderNode : Option String
  driver : Option String

/-- An entry of `/sys/class/drm`: its name, the names in its `device/drm` if that can be read, and
the name of its driver. -/
structure DrmEntry where
  name : String
  nodes : Option (List String)
  driver : Option String

/-- The name is the stem with a decimal number. -/
def isNumbered (stem name : String) : Bool :=
  let digits := name.toList.drop stem.toList.length
  stem.toList.isPrefixOf name.toList && decide (digits ≠ []) && digits.all Char.isDigit

def renderNodeForDevice (nodes : Option (List String)) : Option String := do
  let nodes := (← nodes).filter (isNumbered "renderD")
  let node ← (nodes.insertionSort (· ≤ ·)).head?
  return "/dev/dri/" ++ node

def probeDrmDevices (entries : List DrmEntry) : List DrmDevice :=
  let cards := entries.filter fun entry => isNumbered "card" entry.name
  let devices := cards.map fun entry =>
    { card := entry.name, renderNode := renderNodeForDevice entry.nodes, driver := entry.driver }
  devices.insertionSort fun left right => left.card ≤ right.card

/-- The device is there and has a driver that can be used.  Paths are compared by their
components. -/
def supportedDevice (devices : List DrmDevice) (device : String) : Except String Unit :=
  let selected := devices.find? fun candidate =>
    candidate.renderNode.map pathComponents = some (pathComponents device)
  match selected with
  | none => .error s!"{device} is not a discovered DRM render node"
  | some candidate =>
    if candidate.driver = some "nvidia" ∨ candidate.driver = none then
      .error s!"{device} does not use a supported Mesa DRM driver"
    else .ok ()

/-! ### Files -/

structure ConfigFile where
  text : List Char
  mode : ℕ
  deriving DecidableEq

/-- The configuration, its backup, and the file that is written in its place. -/
structure GpuFiles where
  config : ConfigFile
  backup : Option ConfigFile
  temporary : Option ConfigFile
  deriving DecidableEq

/-- How the steps of writing a file end.  A write that fails has written some characters. -/
structure AtomicWrite where
  create : Except IoError Unit
  write : Except IoError Unit
  written : ℕ
  sync : Except IoError Unit
  setPermissions : Except IoError Unit
  rename : Except IoError Unit
  remove : Except IoError Unit

/-- The command that applies the configuration. -/
inductive Upgrade
  | notStarted (error : IoError)
  /-- It was killed, or ended with a failure; the text of its status. -/
  | failed (status : String)
  | succeeded

/-- What the system answers. -/
structure GpuHost where
  pid : ℕ
  umask : ℕ
  processStatus : Except IoError (List Char)
  containerStopped : Except IoError Unit
  drm : List DrmEntry
  readConfig : Except IoError Unit
  copyBackup : Except IoError Unit
  /-- How much of the backup a copy that fails has written, if it has created the file. -/
  copied : Option ℕ
  inspectConfig : Except IoError Unit
  write : AtomicWrite
  upgrade : Upgrade
  rollback : AtomicWrite

/-- `.waydroid.cfg.wroid-{pid}` -/
def temporaryPath (pid : ℕ) : String := s!"/var/lib/waydroid/.waydroid.cfg.wroid-{pid}"

section Write

variable (io : AtomicWrite) (pid umask : ℕ) (content : List Char) (mode : ℕ)

/-- `create_new` -/
def createTemporary : EStateM String GpuFiles Unit := do
  if (← get).temporary.isSome then throw s!"failed to create {temporaryPath pid}"
  ofAnswer (withContext s!"failed to create {temporaryPath pid}" io.create)
  modify fun files => { files with temporary := some ⟨[], Nat.ldiff mode umask⟩ }

def setTemporary (f : ConfigFile → ConfigFile) : EStateM String GpuFiles Unit :=
  modify fun files => { files with temporary := files.temporary.map f }

def writeAll : EStateM String GpuFiles Unit := do
  let written := if io.write = .ok () then content else content.take io.written
  setTemporary fun file => { file with text := written }
  ofAnswer (plainly io.write)

/-- The temporary file becomes the configuration. -/
def renameTemporary : EStateM String GpuFiles Unit := do
  ofAnswer (plainly io.rename)
  modify fun files =>
    { files with config := files.temporary.getD files.config, temporary := none }

def removeTemporary : EStateM String GpuFiles Unit :=
  modify fun files => if io.remove = .ok () then { files with temporary := none } else files

def writeTemporary : EStateM String GpuFiles Unit := do
  createTemporary io pid umask mode
  writeAll io content
  ofAnswer (plainly io.sync)
  ofAnswer (plainly io.setPermissions)
  setTemporary fun file => { file with mode := mode }
  renameTemporary io

def writeAtomic : EStateM String GpuFiles Unit := do
  match ← attempt (writeTemporary io pid umask content mode) with
  | .ok _ => return ()
  | .error error => do
    removeTemporary io
    throw error

end Write

/-! ### The change -/

def ensureRoot (status : Except IoError (List Char)) (operation : String) : Except String Unit := do
  let status ← plainly status
  let uids := (lines status).find? fun line => "Uid:".toList.isPrefixOf line
  let uid := do (words ((← uids).drop "Uid:".length))[1]?
  match uid.bind fun text => parseUnsigned (2 ^ 32 - 1) (.ofList text) with
  | none => .error "could not read the effective uid"
  | some uid =>
    if uid ≠ 0 then
      .error s!"{operation} requires root; run it through wroid performance --setup-gpu"
    else .ok ()

def SECTION : List Char := "waydroid".toList

def DRM_DEVICE : List Char := "drm_device".toList

variable (host : GpuHost) (device : String)

/-- What comes before the files are looked at. -/
def selectDevice : Except String Unit := do
  ensureRoot host.processStatus "Waydroid GPU configuration"
  withContext "Waydroid must be stopped before changing its generated GPU configuration"
    host.containerStopped
  supportedDevice (probeDrmDevices host.drm) device

/-- `fs::copy`, unless there is a backup. -/
def createBackup : EStateM String GpuFiles Unit := do
  let files ← get
  if files.backup = none then
    match host.copyBackup with
    | .ok _ => set { files with backup := some files.config }
    | .error _ => do
      let copied := host.copied.map fun length =>
        { files.config with text := files.config.text.take length }
      set { files with backup := copied }
      throw s!"failed to create {WAYDROID_CONFIG}.wroid-backup"

/-- The command, and what is done when it fails. -/
def applyUpgrade (changed : Bool) (original : List Char) (mode : ℕ) :
    EStateM String GpuFiles Unit :=
  match host.upgrade with
  | .notStarted _ => throw "failed to apply the Waydroid GPU configuration"
  | .failed status => do
    if changed then
      mapError (fun _ => "Waydroid GPU setup failed and config rollback also failed")
        (writeAtomic host.rollback host.pid host.umask original mode)
    throw s!"waydroid upgrade -o failed with {status}; configuration was rolled back"
  | .succeeded => return ()

def configureWaydroidGpu : EStateM String GpuFiles Unit := do
  ofAnswer (selectDevice host device)
  ofAnswer (withContext s!"failed to read {WAYDROID_CONFIG}" host.readConfig)
  let original := (← get).config.text
  let updated ← ofAnswer (setIniValue original SECTION DRM_DEVICE device.toList)
  let changed := decide (updated ≠ original)
  createBackup host
  ofAnswer (plainly host.inspectConfig)
  let mode := (← get).config.mode % 0o10000
  if changed then
    writeAtomic host.write host.pid host.umask updated mode
  applyUpgrade host changed original mode

/-! ### Writing a file -/

/-- Every step of the writing works, but for the removal that is not needed then. -/
structure AtomicWrite.Works (io : AtomicWrite) : Prop where
  create : io.create = .ok ()
  write : io.write = .ok ()
  sync : io.sync = .ok ()
  setPermissions : io.setPermissions = .ok ()
  rename : io.rename = .ok ()

section WriteRules

variable {io : AtomicWrite} {pid umask mode : ℕ} {content : List Char} {files : GpuFiles}

theorem plainly_eq_ok {answer : Except IoError Unit} : plainly answer = .ok () ↔ answer = .ok () := by
  cases answer <;> simp [plainly, Except.mapError]

theorem withContext_eq_ok {message : String} {answer : Except IoError Unit} :
    withContext message answer = .ok () ↔ answer = .ok () := by
  cases answer <;> simp [withContext, Except.mapError]

theorem wp_plainly {answer : Except IoError Unit} {Q : Unit → GpuFiles → Prop}
    {R : String → GpuFiles → Prop} : wp (ofAnswer (plainly answer)) Q R files ↔
      (answer = .ok () → Q () files) ∧ ∀ e, answer = .error e → R e.detail files := by
  cases answer with
  | ok a => simp [plainly, Except.mapError, Unique.forall_iff]
  | error e => simp [plainly, Except.mapError]

theorem wp_withContext {message : String} {answer : Except IoError Unit}
    {Q : Unit → GpuFiles → Prop} {R : String → GpuFiles → Prop} :
    wp (ofAnswer (withContext message answer)) Q R files ↔
      (answer = .ok () → Q () files) ∧ ∀ e, answer = .error e → R message files := by
  cases answer with
  | ok a => simp [withContext, Except.mapError, Unique.forall_iff]
  | error e => simp [withContext, Except.mapError]

/-- A step that fails does not work. -/
theorem not_works {answer : Except IoError Unit} {e : IoError} {p : Prop}
    (hworks : io.Works → answer = .ok ()) (he : answer = .error e) : ¬ (io.Works ∧ p) := by
  intro h
  rw [hworks h.1] at he
  contradiction

theorem wp_writeTemporary : wp (writeTemporary io pid umask content mode)
    (fun _ files' => (io.Works ∧ files.temporary = none) ∧
      files' = { files with config := ⟨content, mode⟩, temporary := none })
    (fun _ files' => ¬ (io.Works ∧ files.temporary = none) ∧ files'.config = files.config)
    files := by
  unfold writeTemporary createTemporary writeAll setTemporary renameTemporary
  simp only [wp_bind, wp_get, wp_ite, wp_throw, wp_plainly, wp_withContext, wp_modify]
  by_cases hsome : files.temporary.isSome = true
  · rw [if_pos hsome]
    refine ⟨fun h => ?_, trivial⟩
    rw [h.2] at hsome
    contradiction
  rw [if_neg hsome]
  have hnone : files.temporary = none := by simpa using hsome
  refine ⟨fun hcreate => ⟨fun hwrite => ⟨fun hsync => ⟨fun hpermissions => ⟨fun hrename => ?_,
    ?_⟩, ?_⟩, ?_⟩, ?_⟩, ?_⟩
  · refine ⟨⟨⟨hcreate, hwrite, hsync, hpermissions, hrename⟩, hnone⟩, ?_⟩
    rw [if_pos hwrite]
    rfl
  · exact fun e he => ⟨not_works (·.rename) he, trivial⟩
  · exact fun e he => ⟨not_works (·.setPermissions) he, trivial⟩
  · exact fun e he => ⟨not_works (·.sync) he, trivial⟩
  · exact fun e he => ⟨not_works (·.write) he, trivial⟩
  · exact fun e he => ⟨not_works (·.create) he, trivial⟩

/-- **The configuration has the new text exactly if no error is reported.** -/
theorem wp_writeAtomic : wp (writeAtomic io pid umask content mode)
    (fun _ files' => (io.Works ∧ files.temporary = none) ∧
      files' = { files with config := ⟨content, mode⟩, temporary := none })
    (fun _ files' => ¬ (io.Works ∧ files.temporary = none) ∧ files'.config = files.config)
    files := by
  unfold writeAtomic removeTemporary
  simp only [wp_bind, wp_attempt]
  refine wp_mono wp_writeTemporary (fun _ files' h => h) ?_
  intro message files' h
  simp only [wp_modify, wp_throw]
  split_ifs
  · exact h
  · exact h

end WriteRules

/-! ### A device that may be chosen -/

section Device

variable {device : String}

theorem exists_node {nodes : Option (List String)} {path : String}
    (h : renderNodeForDevice nodes = some path) :
    ∃ digits : List Char, (∀ c ∈ digits, c.isDigit = true) ∧
      path.toList = "/dev/dri/renderD".toList ++ digits := by
  cases nodes with
  | none => cases h
  | some nodes =>
    cases hnode : ((nodes.filter (isNumbered "renderD")).insertionSort (· ≤ ·)).head? with
    | none => simp [renderNodeForDevice, hnode] at h
    | some node =>
      have hpath : "/dev/dri/" ++ node = path := by
        simpa [renderNodeForDevice, hnode] using h
      have hmem := (List.mem_insertionSort _).mp (List.mem_of_mem_head? hnode)
      have hnumbered := (List.mem_filter.mp hmem).2
      simp only [isNumbered, Bool.and_eq_true, List.isPrefixOf_iff_prefix] at hnumbered
      obtain ⟨digits, hdigits⟩ := hnumbered.1.1
      refine ⟨digits, ?_, ?_⟩
      · rw [← hdigits, List.drop_left' rfl, List.all_eq_true] at hnumbered
        exact hnumbered.2
      · rw [← hpath, String.toList_append, ← hdigits, ← List.append_assoc]
        rfl

theorem exists_of_supported {entries : List DrmEntry}
    (h : supportedDevice (probeDrmDevices entries) device = .ok ()) :
    ∃ digits : List Char, ∃ path : String, (∀ c ∈ digits, c.isDigit = true) ∧
      path.toList = "/dev/dri/renderD".toList ++ digits ∧
      pathComponents path = pathComponents device := by
  unfold supportedDevice at h
  simp only at h
  cases hfind : (probeDrmDevices entries).find? fun candidate =>
      candidate.renderNode.map pathComponents = some (pathComponents device) with
  | none =>
    rw [hfind] at h
    contradiction
  | some candidate =>
    have hmem := (List.mem_insertionSort _).mp (List.mem_of_find?_eq_some hfind)
    obtain ⟨entry, -, rfl⟩ := List.mem_map.mp hmem
    have hnode := List.find?_some hfind
    rw [decide_eq_true_eq, Option.map_eq_some_iff] at hnode
    obtain ⟨path, hpath, hcomponents⟩ := hnode
    obtain ⟨digits, hdigits, htext⟩ := exists_node hpath
    exact ⟨digits, path, hdigits, htext, hcomponents⟩

/-- The name of a device can be written into the configuration. -/
theorem isValue_of_supported {entries : List DrmEntry}
    (h : supportedDevice (probeDrmDevices entries) device = .ok ()) : IsValue device.toList := by
  obtain ⟨digits, path, hdigits, htext, hcomponents⟩ := exists_of_supported h
  have hstem : "/dev/dri/renderD".toList.all (fun c => !rustBlank c) = true := by decide +kernel
  have hpath : ∀ c ∈ path.toList, rustBlank c = false := by
    intro c hc
    rw [htext, List.mem_append] at hc
    rcases hc with hc | hc
    · simpa using List.all_eq_true.mp hstem c hc
    · exact rustBlank_digit (hdigits c hc)
  -- the device may be written with other slashes and dots than the path
  have hblank : ∀ c ∈ device.toList, rustBlank c = false := by
    intro c hc
    rcases mem_of_mem_path hc with rfl | rfl | ⟨name, hname, hmem⟩
    · decide
    · decide
    · rw [← hcomponents] at hname
      exact hpath c (mem_path_of_mem hname hmem)
  have hslash : path = "/" ++ .ofList ("dev/dri/renderD".toList ++ digits) := by
    rw [← String.toList_inj, htext]
    simp
  refine ⟨?_, ?_, ?_⟩
  · intro hempty
    have hdevice : device = "" := String.toList_inj.mp hempty
    rw [hdevice, hslash] at hcomponents
    exact pathComponents_ne_nil hcomponents
  · refine trimChars_eq_self ?_ ?_
    · exact fun c hc => hblank c (List.mem_of_mem_head? hc)
    · exact fun c hc => hblank c (List.mem_of_getLast? hc)
  · intro hbreak
    have hnewline := hblank _ hbreak
    revert hnewline
    decide

end Device

/-! ### The device in the configuration -/

theorem isKey_drmDevice : IsKey DRM_DEVICE := by
  refine ⟨by decide +kernel, by decide +kernel, by decide +kernel, by decide +kernel, ?_⟩
  have hhead : DRM_DEVICE.head? = some 'd' := by decide +kernel
  intro c hc
  rw [hhead] at hc
  obtain rfl := Option.mem_some.mp hc
  decide

/-- The text, which was made from `original`, chooses the device: the setting is the first one of
its key in its section, and a reader of the configuration finds it. -/
structure DeviceSet (original text : List Char) (device : String) : Prop where
  first : ∃ front back, lines text = front ++ setting DRM_DEVICE device.toList :: back ∧
    Opens SECTION DRM_DEVICE front
  read : PlainSections (lines original) → iniProperty text SECTION DRM_DEVICE = some device.toList

theorem deviceSet_of_setIniValue {original text : List Char} {device : String}
    (hvalue : IsValue device.toList)
    (h : setIniValue original SECTION DRM_DEVICE device.toList = .ok text) :
    DeviceSet original text device := by
  obtain ⟨front, old, back, hlines, rfl, hopens, -⟩ := exists_written h
  refine ⟨⟨_, _, lines_written isKey_drmDevice hvalue hlines, hopens.map_stripReturn⟩, ?_⟩
  intro hsections
  exact iniProperty_eq_value hsections (by decide +kernel) isKey_drmDevice hvalue hlines hopens

/-! ### The whole change -/

/-- Everything works, and the text is changed, until the command cannot be started. -/
structure Stranded (host : GpuHost) (device : String) (files : GpuFiles) : Prop where
  selected : selectDevice host device = .ok ()
  readable : host.readConfig = .ok ()
  changed : ∃ updated, setIniValue files.config.text SECTION DRM_DEVICE device.toList = .ok updated ∧
    updated ≠ files.config.text
  backup : files.backup ≠ none ∨ host.copyBackup = .ok ()
  inspected : host.inspectConfig = .ok ()
  written : host.write.Works ∧ files.temporary = none
  command : ∃ error, host.upgrade = .notStarted error

/-- An error leaves the text as it was, and without an error the device is chosen. -/
def RollsBack (host : GpuHost) (device : String) (files : GpuFiles) : Prop :=
  wp (configureWaydroidGpu host device)
    (fun _ files' => DeviceSet files.config.text files'.config.text device)
    (fun _ files' => files'.config.text = files.config.text) files

section Change

variable {host : GpuHost} {device : String} {files : GpuFiles}

theorem isValue_of_selected (h : selectDevice host device = .ok ()) : IsValue device.toList := by
  unfold selectDevice at h
  cases hroot : ensureRoot host.processStatus "Waydroid GPU configuration" with
  | error message => simp [hroot, bind, Except.bind] at h
  | ok _ =>
    simp only [hroot, bind, Except.bind] at h
    split at h
    · cases h
    · exact isValue_of_supported h

/-- Making the backup does not touch the configuration. -/
theorem wp_createBackup : wp (createBackup host)
    (fun _ files' => (files.backup ≠ none ∨ host.copyBackup = .ok ()) ∧
      files'.config = files.config ∧ files'.temporary = files.temporary)
    (fun _ files' => ¬ (files.backup ≠ none ∨ host.copyBackup = .ok ()) ∧
      files'.config = files.config) files := by
  unfold createBackup
  simp only [wp_bind, wp_get]
  by_cases hbackup : files.backup = none
  · rw [if_pos hbackup]
    cases hcopy : host.copyBackup with
    | ok _ => simp
    | error error => simp [hbackup]
  · rw [if_neg hbackup]
    exact ⟨.inl hbackup, rfl, rfl⟩

/-- What the command and its failures leave behind. -/
theorem wp_applyUpgrade {changed : Bool} {original : List Char} {mode : ℕ}
    (hrollback : host.rollback.Works) (htemporary : changed = true → files.temporary = none)
    (hsame : changed = false → files.config.text = original) :
    wp (applyUpgrade host changed original mode)
      (fun _ files' => (∀ error, host.upgrade ≠ .notStarted error) ∧ files' = files)
      (fun _ files' => (∃ error, host.upgrade = .notStarted error) ∧ files' = files ∨
        (∀ error, host.upgrade ≠ .notStarted error) ∧ files'.config.text = original) files := by
  unfold applyUpgrade
  cases hupgrade : host.upgrade with
  | notStarted error => exact .inl ⟨⟨error, rfl⟩, rfl⟩
  | succeeded => exact ⟨by simp, rfl⟩
  | failed status =>
    cases changed with
    | false =>
      simp only [Bool.false_eq_true, if_false, wp_throw]
      exact .inr ⟨by simp, hsame rfl⟩
    | true =>
      simp only [wp_bind, if_true, wp_mapError, wp_throw]
      refine wp_mono wp_writeAtomic ?_ ?_
      · intro _ files' h
        rw [h.2]
        exact .inr ⟨by simp, rfl⟩
      · intro _ files' h
        exact absurd ⟨hrollback, htemporary rfl⟩ h.1

/-- The text is changed and the command run. -/
theorem wp_changeConfig {updated : List Char} {mode : ℕ} (hrollback : host.rollback.Works) :
    wp (do
        writeAtomic host.write host.pid host.umask updated mode
        applyUpgrade host true files.config.text mode)
      (fun _ files' => (∀ error, host.upgrade ≠ .notStarted error) ∧ files'.config.text = updated)
      (fun _ files' => ((host.write.Works ∧ files.temporary = none) ∧
          ∃ error, host.upgrade = .notStarted error) ∧ files'.config.text = updated ∨
        ¬ ((host.write.Works ∧ files.temporary = none) ∧
          ∃ error, host.upgrade = .notStarted error) ∧ files'.config.text = files.config.text)
      files := by
  rw [wp_bind]
  refine wp_mono wp_writeAtomic ?_ ?_
  · intro _ t ht
    obtain ⟨hwritten, ht⟩ := ht
    refine wp_mono (wp_applyUpgrade hrollback (fun _ => by rw [ht]) (by simp)) ?_ ?_
    · intro _ u hu
      refine ⟨hu.1, ?_⟩
      rw [hu.2, ht]
    · intro _ u hu
      rcases hu with ⟨hcommand, hu⟩ | ⟨hcommand, hu⟩
      · refine .inl ⟨⟨hwritten, hcommand⟩, ?_⟩
        rw [hu, ht]
      · refine .inr ⟨fun h => ?_, hu⟩
        obtain ⟨error, herror⟩ := h.2
        exact hcommand error herror
  · intro _ t ht
    refine .inr ⟨fun h => ht.1 h.1, ?_⟩
    rw [ht.2]

theorem wp_configureWaydroidGpu (hrollback : host.rollback.Works) :
    wp (configureWaydroidGpu host device)
      (fun _ files' => ¬ Stranded host device files ∧
        DeviceSet files.config.text files'.config.text device)
      (fun _ files' => (Stranded host device files ↔ files'.config.text ≠ files.config.text))
      files := by
  have hkept : ∀ files' : GpuFiles, ¬ Stranded host device files →
      files'.config.text = files.config.text →
      (Stranded host device files ↔ files'.config.text ≠ files.config.text) := by
    intro files' hnot htext
    exact iff_of_false hnot fun h => h htext
  unfold configureWaydroidGpu
  simp only [wp_bind, wp_get, wp_plainly, wp_withContext]
  rw [wp_ofAnswer]
  refine ⟨fun _ hselected => ⟨fun hreadable => ?_, ?_⟩, ?_⟩
  rw [wp_ofAnswer]
  refine ⟨fun updated hupdated => ?_, ?_⟩
  · have hset : DeviceSet files.config.text updated device :=
      deviceSet_of_setIniValue (isValue_of_selected hselected) hupdated
    refine wp_mono wp_createBackup ?_ ?_
    · intro _ t ht
      obtain ⟨hbackup, hconfig, htemporary⟩ := ht
      refine ⟨fun hinspected => ?_, ?_⟩
      · by_cases hchanged : updated = files.config.text
        · have hdecide : decide (updated ≠ files.config.text) = false := by simp [hchanged]
          have hnot : ¬ Stranded host device files := by
            intro h
            obtain ⟨updated', hupdated', hne⟩ := h.changed
            rw [hupdated, Except.ok.injEq] at hupdated'
            exact hne (by rw [← hupdated', hchanged])
          simp only [hdecide, Bool.false_eq_true, if_false]
          refine wp_mono (wp_applyUpgrade hrollback (by simp) fun _ => by rw [hconfig]) ?_ ?_
          · intro _ u hu
            rw [hu.2, hconfig]
            exact ⟨hnot, by rwa [hchanged] at hset⟩
          · intro _ u hu
            refine hkept u hnot ?_
            rcases hu with ⟨-, hu⟩ | ⟨-, hu⟩
            · rw [hu, hconfig]
            · exact hu
        · have hdecide : decide (updated ≠ files.config.text) = true := by simp [hchanged]
          have hchange := @wp_changeConfig host t updated (t.config.mode % 0o10000) hrollback
          rw [hconfig, htemporary] at hchange
          simp only [hdecide, if_true, hconfig]
          refine wp_mono hchange ?_ ?_
          · intro _ u hu
            rw [hu.2]
            refine ⟨fun h => ?_, hset⟩
            obtain ⟨error, herror⟩ := h.command
            exact hu.1 error herror
          · intro _ u hu
            rcases hu with ⟨hstuck, hu⟩ | ⟨hstuck, hu⟩
            · rw [hu]
              exact iff_of_true ⟨hselected, hreadable, ⟨updated, hupdated, hchanged⟩, hbackup,
                hinspected, hstuck.1, hstuck.2⟩ hchanged
            · exact hkept u (fun h => hstuck ⟨h.written, h.command⟩) hu
      · intro e he
        refine hkept t (fun h => ?_) (by rw [hconfig])
        rw [h.inspected] at he
        contradiction
    · intro _ t ht
      exact hkept t (fun h => ht.1 h.backup) (by rw [ht.2])
  · intro message hmessage
    refine hkept files (fun h => ?_) rfl
    obtain ⟨updated, hupdated, -⟩ := h.changed
    rw [hupdated] at hmessage
    contradiction
  · intro e he
    refine hkept files (fun h => ?_) rfl
    rw [h.readable] at he
    contradiction
  · intro message hmessage
    refine hkept files (fun h => ?_) rfl
    rw [h.selected] at hmessage
    contradiction

/-- **An error leaves the configuration as it was unless the command cannot be started when the
file has been changed, and without an error the device is chosen.** -/
theorem configure_rolls_back_iff (hrollback : host.rollback.Works) :
    RollsBack host device files ↔ ¬ Stranded host device files := by
  have hrun := @wp_configureWaydroidGpu host device files hrollback
  constructor
  · intro h hstranded
    have hself := wp_and h hrun
    unfold wp at hself
    cases hresult : configureWaydroidGpu host device files with
    | ok _ files' =>
      rw [hresult] at hself
      exact hself.2.1 hstranded
    | error _ files' =>
      rw [hresult] at hself
      exact hself.2.mp hstranded hself.1
  · intro hnot
    refine wp_mono hrun (fun _ files' h => h.2) ?_
    intro _ files' h
    by_contra hne
    exact hnot (h.mpr hne)

end Change

/-! ### A command that is killed, and one that is missing -/

def plainWrite : AtomicWrite := ⟨.ok (), .ok (), 0, .ok (), .ok (), .ok (), .ok ()⟩

/-- A computer with one Intel graphics device, in the hands of the administrator. -/
def sampleHost (upgrade : Upgrade) : GpuHost where
  pid := 7
  umask := 0o022
  processStatus := .ok "Name:\twroid\nUid:\t0\t0\t0\t0\n".toList
  containerStopped := .ok ()
  drm := [⟨"card0", some ["card0", "renderD128"], some "i915"⟩]
  readConfig := .ok ()
  copyBackup := .ok ()
  copied := none
  inspectConfig := .ok ()
  write := plainWrite
  upgrade := upgrade
  rollback := plainWrite

def sampleFiles : GpuFiles where
  config := ⟨"[waydroid]\narch = x86_64\n".toList, 0o644⟩
  backup := none
  temporary := none

theorem configure_rolls_back_iff_killed :
    RollsBack (sampleHost (.failed "signal: 9 (SIGKILL)")) "/dev/dri/renderD128" sampleFiles := by
  have hworks : plainWrite.Works := ⟨rfl, rfl, rfl, rfl, rfl⟩
  rw [configure_rolls_back_iff hworks]
  intro h
  obtain ⟨error, herror⟩ := h.command
  have hkilled : Upgrade.failed "signal: 9 (SIGKILL)" = .notStarted error := herror
  contradiction

/-- Without the command the new setting stays in the file. -/
theorem missing_command_strands : plainWrite.Works ∧ ¬ RollsBack
    (sampleHost (.notStarted ⟨.notFound, "No such file or directory (os error 2)"⟩))
    "/dev/dri/renderD128" sampleFiles := by
  refine ⟨⟨rfl, rfl, rfl, rfl, rfl⟩, fun h => ?_⟩
  have hrun : failsWith
      (fun files => files.config.text =
        "[waydroid]\narch = x86_64\ndrm_device = /dev/dri/renderD128\n".toList)
      (configureWaydroidGpu
        (sampleHost (.notStarted ⟨.notFound, "No such file or directory (os error 2)"⟩))
        "/dev/dri/renderD128") sampleFiles = true := by decide +kernel
  obtain ⟨message, files', hresult, htext⟩ := exists_of_failsWith hrun
  have hkept := wp_error h hresult
  rw [decide_eq_true_eq] at htext
  rw [htext] at hkept
  revert hkept
  decide +kernel

end Wroid.GpuSetup
