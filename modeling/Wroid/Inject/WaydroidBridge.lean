import Wroid.Lib.Fallible
import Wroid.Lib.Lines
import Wroid.Lib.Streams

/-!
# The input bridge in the configuration of Waydroid

The bridge is a configuration fragment of its own, and a line of Waydroid's main configuration
that includes it.  Installing writes the fragment and adds the line; the cleanup takes the line out
again and puts the former fragment back.  Each file is prepared under a temporary name and renamed.

The files of the host are nodes under the two names and their two temporary names.  Every call to
the system may fail, each at its own turn: `BridgeHost.fault` says which do.

## Main definitions

* `BridgeHost` — the files, and the fate of the calls to come.
* `addInclude`, `removeInclude` — the line in the main configuration.
* `atomicWrite`, `restoreManagedFile`, `removeManagedInclude` — the changes of one file.
* `install`, `cleanup`, `removeBridge` — the bridge.

## Main results

* `addInclude_of_mem`, `removeInclude_unlines` — the texts the two line operations give.
* `removeInclude_addInclude` — the text after adding the line and removing it.
-/

namespace Wroid

open Lib

namespace WaydroidBridge

def MANAGED_HEADER : String := "# Managed by Wroid Gaming Hub input bridge"

def DEFAULT_WAYDROID_BRIDGE_CONFIG : String :=
  "/var/lib/waydroid/lxc/waydroid/config_wroid_input"

inductive CgroupMode
  | v1
  | v2
  deriving DecidableEq

def CgroupMode.label : CgroupMode → String
  | .v1 => "v1"
  | .v2 => "v2"

/-- An input node of the host; its path is bytes, and need not be text. -/
structure InputDeviceNode where
  path : ByteArray

inductive ConfigFile
  | main
  | managed
  deriving DecidableEq

inductive BridgePath
  | config (file : ConfigFile)
  /-- `atomic_temporary_path` -/
  | temporary (file : ConfigFile)
  deriving DecidableEq

/-- The path of the fragment, as the main configuration names it.  It has no line break and no
blank at its end, so that a line can end with it. -/
structure WaydroidBridgePaths where
  managedConfig : String
  unbroken : Unbroken managedConfig.toList
  trimmed : ∃ init c, managedConfig.toList = init ++ [c] ∧ rustBlank c = false

instance : Inhabited WaydroidBridgePaths where
  default :=
    { managedConfig := DEFAULT_WAYDROID_BRIDGE_CONFIG
      unbroken := by decide +kernel
      trimmed :=
        ⟨"/var/lib/waydroid/lxc/waydroid/config_wroid_inpu".toList, 't', by decide +kernel⟩ }

/-! ### The host -/

inductive Node
  | file (contents : ByteArray) (mode : ℕ)
  | directory
  deriving DecidableEq

/-- How a call fails: with an error that is not the absence of a file, after writing a first part
perhaps. -/
structure Fault where
  error : IoError
  written : Option ℕ
  real : error.kind ≠ .notFound

structure BridgeHost where
  node : BridgePath → Option Node
  /-- How the call with this number fails, if it does. -/
  fault : ℕ → Option Fault
  /-- How many calls have been made. -/
  calls : ℕ
  /-- The mode of a new file. -/
  newFileMode : ℕ
  /-- How the standard library says that bytes are not text. -/
  utf8Error : ByteArray → String

abbrev BridgeM := EStateM IoError BridgeHost

namespace BridgeHost

def setNode (host : BridgeHost) (path : BridgePath) (node : Option Node) : BridgeHost :=
  { host with node := Function.update host.node path node }

/-- The host with one more call made. -/
def next (host : BridgeHost) : BridgeHost := { host with calls := host.calls + 1 }

/-- Make the next call.  If it is bound to fail, `broken` is what it does before. -/
def call {α : Type} (broken : Fault → BridgeHost → BridgeHost)
    (run : BridgeHost → Except IoError (α × BridgeHost)) : BridgeM α := fun host =>
  match host.fault host.calls with
  | some fault => .error fault.error (broken fault host.next)
  | none =>
    match run host.next with
    | .ok (a, host') => .ok a host'
    | .error error => .error error host.next

/-- What can be seen of a file: whether it is there, and what it holds. -/
def seen (host : BridgeHost) (file : ConfigFile) : Option (Option ByteArray) :=
  (host.node (.config file)).map fun
    | .file contents _ => some contents
    | .directory => none

end BridgeHost

open BridgeHost

def missing : IoError := ⟨.notFound, "No such file or directory (os error 2)"⟩

def isDirectory : IoError := ⟨.other, "Is a directory (os error 21)"⟩

/-- `fs::read` -/
def read (path : BridgePath) : BridgeM ByteArray :=
  call (fun _ host => host) fun host =>
    match host.node path with
    | some (.file contents _) => .ok (contents, host)
    | some .directory => .error isDirectory
    | none => .error missing

/-- `fs::read_to_string` -/
def readToString (path : BridgePath) : BridgeM String := do
  let contents ← read path
  match String.fromUTF8? contents with
  | some text => pure text
  | none => throw ⟨.invalidData, "stream did not contain valid UTF-8"⟩

/-- `fs::metadata(path)?.permissions().mode() & 0o777` -/
def permissions (path : BridgePath) : BridgeM ℕ :=
  call (fun _ host => host) fun host =>
    match host.node path with
    | some (.file _ mode) => .ok (mode &&& 0o777, host)
    | some .directory => .ok (0o755, host)
    | none => .error missing

/-- `fs::create_dir_all`; the directory of a file is not one of the nodes. -/
def createDirAll : BridgeM Unit := call (fun _ host => host) fun host => .ok ((), host)

/-- The file as it is while its contents are written. -/
def BridgeHost.store (host : BridgeHost) (path : BridgePath) (contents : ByteArray) : BridgeHost :=
  match host.node path with
  | some (.file _ mode) => host.setNode path (some (.file contents mode))
  | some .directory => host
  | none => host.setNode path (some (.file contents host.newFileMode))

/-- `fs::write` creates the file or truncates it, and then fills it. -/
def write (path : BridgePath) (contents : ByteArray) : BridgeM Unit :=
  call (fun fault host =>
      match fault.written with
      | some length => host.store path (contents.extract 0 length)
      | none => host)
    fun host =>
      match host.node path with
      | some .directory => .error isDirectory
      | _ => .ok ((), host.store path contents)

/-- `fs::set_permissions` -/
def setPermissions (path : BridgePath) (mode : ℕ) : BridgeM Unit :=
  call (fun _ host => host) fun host =>
    match host.node path with
    | some (.file contents _) => .ok ((), host.setNode path (some (.file contents mode)))
    | some .directory => .ok ((), host)
    | none => .error missing

/-- `fs::rename`; a file does not take the name of a directory. -/
def rename (old new : BridgePath) : BridgeM Unit :=
  call (fun _ host => host) fun host =>
    match host.node old with
    | none => .error missing
    | some node =>
      if host.node new = some .directory then .error isDirectory
      else .ok ((), (host.setNode new (some node)).setNode old none)

/-- `fs::remove_file` -/
def removeFile (path : BridgePath) : BridgeM Unit :=
  call (fun _ host => host) fun host =>
    match host.node path with
    | some (.file _ _) => .ok ((), host.setNode path none)
    | some .directory => .error isDirectory
    | none => .error missing

/-! ### The texts -/

def includeLine (paths : WaydroidBridgePaths) : List Char :=
  ("lxc.include = " ++ paths.managedConfig).toList

/-- The line includes the fragment, whatever blanks are around. -/
def Includes (entry line : List Char) : Prop := trimChars rustBlank line = entry

instance (entry line : List Char) : Decidable (Includes entry line) :=
  inferInstanceAs (Decidable (_ = _))

/-- `str::trim_end_matches('\n')` -/
def trimEndNewlines (text : List Char) : List Char := text.rdropWhile (· == '\n')

def addInclude (config entry : List Char) : List Char :=
  if (lines config).any fun line => Includes entry line then config
  else trimEndNewlines config ++ '\n' :: entry ++ ['\n']

def removeInclude (config entry : List Char) : List Char :=
  let updated := joinLines ((lines config).filter fun line => ¬ Includes entry line)
  if config.getLast? = some '\n' ∨ updated ≠ [] then updated ++ ['\n'] else updated

def renderBridgeConfig (node : InputDeviceNode) (cgroupMode : CgroupMode) : Except IoError String :=
  match String.fromUTF8? node.path with
  | none => .error ⟨.invalidInput, "input device path is not UTF-8"⟩
  | some source =>
    if source.toList.any (fun c => c == '\n' || c == '\r') then
      .error ⟨.invalidInput, "input device path contains a line break"⟩
    else
      let destination := String.ofList (source.toList.dropWhile (· == '/'))
      .ok (MANAGED_HEADER ++ "\n# Host cgroup mode: " ++ cgroupMode.label ++
        "; Waydroid device policy is intentionally unchanged\nlxc.mount.entry = " ++ source ++ " " ++
        destination ++ " none bind,create=file 0 0\n")

/-! ### Changing one file -/

def combineIoErrors (context : String) (primary : IoError) (rollback : Option IoError) : IoError :=
  match rollback with
  | some rollback =>
    ⟨.other, context ++ ": " ++ primary.detail ++ "; rollback also failed: " ++ rollback.detail⟩
  | none => ⟨primary.kind, context ++ ": " ++ primary.detail⟩

/-- The steps of `atomic_write` after which it cleans up if one of them fails. -/
def replaceFile (file : ConfigFile) (contents : ByteArray) (mode : ℕ) : BridgeM Unit := do
  write (.temporary file) contents
  setPermissions (.temporary file) mode
  rename (.temporary file) (.config file)

def atomicWrite (file : ConfigFile) (contents : ByteArray) (mode : ℕ) : BridgeM Unit := do
  createDirAll
  match ← attempt (replaceFile file contents mode) with
  | .ok () => pure ()
  | .error error => do
    let _ : Except IoError Unit ← attempt (removeFile (.temporary file))
    throw error

def removeFileIfExists (file : ConfigFile) : BridgeM Unit := do
  match ← attempt (removeFile (.config file)) with
  | .ok () => pure ()
  | .error error => if error.kind = .notFound then pure () else throw error

def restoreManagedFile (file : ConfigFile) (original : Option ByteArray)
    (originalMode : Option ℕ) : BridgeM Unit :=
  match original with
  | some contents => atomicWrite file contents (originalMode.getD 0o644)
  | none => removeFileIfExists file

def removeManagedInclude (paths : WaydroidBridgePaths) : BridgeM Unit := do
  let main ← readToString (.config .main)
  let updated := String.ofList (removeInclude main.toList (includeLine paths))
  let mode ← permissions (.config .main)
  if updated ≠ main then
    atomicWrite .main updated.toUTF8 mode

/-! ### The bridge -/

structure InstalledWaydroidBridge where
  paths : WaydroidBridgePaths
  originalManaged : Option ByteArray
  originalManagedMode : Option ℕ
  includeAdded : Bool
  active : Bool

/-- What `install` has found out and put together before it writes. -/
structure Preparation where
  originalManaged : Option ByteArray
  originalManagedMode : Option ℕ
  updatedMain : String
  includeAdded : Bool
  managed : String
  managedMode : ℕ
  mainMode : ℕ

/-- The contents of the fragment, if it is there. -/
def readOriginalManaged : BridgeM (Option ByteArray) := do
  match ← attempt (read (.config .managed)) with
  | .ok contents => pure (some contents)
  | .error error => if error.kind = .notFound then pure none else throw error

/-- The mode of the fragment, if it is there. -/
def readOriginalManagedMode (originalManaged : Option ByteArray) : BridgeM (Option ℕ) :=
  match originalManaged with
  | some _ => some <$> permissions (.config .managed)
  | none => pure none

/-- The part of `install` that only reads. -/
def prepare (paths : WaydroidBridgePaths) (node : InputDeviceNode) (cgroupMode : CgroupMode) :
    BridgeM Preparation := do
  let originalMain ← read (.config .main)
  let originalManaged ← readOriginalManaged
  let originalManagedMode ← readOriginalManagedMode originalManaged
  match String.fromUTF8? originalMain with
  | none => do
    let host ← get
    throw ⟨.invalidData, "Waydroid LXC config is not UTF-8: " ++ host.utf8Error originalMain⟩
  | some mainText =>
    let updatedMain := String.ofList (addInclude mainText.toList (includeLine paths))
    match renderBridgeConfig node cgroupMode with
    | .error error => throw error
    | .ok managed =>
      let mainMode ← permissions (.config .main)
      pure { originalManaged, originalManagedMode, updatedMain
             includeAdded := decide (updatedMain.toUTF8 ≠ originalMain)
             managed, managedMode := originalManagedMode.getD 0o644, mainMode }

/-- The last step of `install`: if the line cannot be added, the fragment is undone. -/
def publishInclude (p : Preparation) : BridgeM Unit := do
  match ← attempt (atomicWrite .main p.updatedMain.toUTF8 p.mainMode) with
  | .ok () => pure ()
  | .error installError => do
    let rollback ← attempt (restoreManagedFile .managed p.originalManaged p.originalManagedMode)
    throw (combineIoErrors "failed to add the Wroid bridge include" installError
      (match rollback with
        | .ok () => none
        | .error error => some error))

def install (paths : WaydroidBridgePaths) (node : InputDeviceNode) (cgroupMode : CgroupMode) :
    BridgeM InstalledWaydroidBridge := do
  let p ← prepare paths node cgroupMode
  atomicWrite .managed p.managed.toUTF8 p.managedMode
  (if p.includeAdded then publishInclude p else pure ())
  pure { paths, originalManaged := p.originalManaged, originalManagedMode := p.originalManagedMode,
         includeAdded := p.includeAdded, active := true }

namespace InstalledWaydroidBridge

/-- The main configuration is left alone unless the line came from the installation. -/
def restoreMain (bridge : InstalledWaydroidBridge) : BridgeM Unit :=
  if bridge.includeAdded then removeManagedInclude bridge.paths else pure ()

def restore (bridge : InstalledWaydroidBridge) : BridgeM Unit := do
  let mainResult ← attempt bridge.restoreMain
  let managedResult ←
    attempt (restoreManagedFile .managed bridge.originalManaged bridge.originalManagedMode)
  match mainResult, managedResult with
  | .ok (), .ok () => pure ()
  | .error error, .ok () => throw error
  | .ok (), .error error => throw error
  | .error mainError, .error managedError =>
    throw ⟨.other, "failed to restore the Waydroid main config: " ++ mainError.detail ++
      "; managed config restore also failed: " ++ managedError.detail⟩

def drop (bridge : InstalledWaydroidBridge) : BridgeM Unit :=
  if bridge.active then do
    let _ : Except IoError Unit ← attempt bridge.restore
    pure ()
  else pure ()

/-- `cleanup` takes the bridge: when the restoration fails, dropping the bridge tries again. -/
def cleanup (bridge : InstalledWaydroidBridge) : BridgeM Unit := do
  match ← attempt bridge.restore with
  | .ok () => drop { bridge with active := false }
  | .error error => do
    drop bridge
    throw error

end InstalledWaydroidBridge

def removeBridge (paths : WaydroidBridgePaths) : BridgeM Unit := do
  removeManagedInclude paths
  removeFileIfExists .managed

/-! ### What becomes of the main configuration -/

section Texts

variable {paths : WaydroidBridgePaths}

theorem unbroken_includeLine : Unbroken (includeLine paths) := by
  rw [Unbroken, includeLine, String.toList_append, List.mem_append, not_or]
  exact ⟨by decide, paths.unbroken⟩

theorem includes_includeLine : Includes (includeLine paths) (includeLine paths) := by
  obtain ⟨init, c, hpath, hc⟩ := paths.trimmed
  have hleft : (includeLine paths).dropWhile rustBlank = includeLine paths := by
    rw [includeLine, String.toList_append]
    rfl
  have hright : (includeLine paths).rdropWhile rustBlank = includeLine paths := by
    rw [includeLine, String.toList_append, hpath, ← List.append_assoc,
      List.rdropWhile_concat_neg _ _ _ (by simp [hc])]
  rw [Includes, trimChars, hleft, hright]

theorem stripReturn_includeLine : stripReturn (includeLine paths) = includeLine paths := by
  obtain ⟨init, c, hpath, hc⟩ := paths.trimmed
  refine stripReturn_eq_self ?_
  rw [includeLine, String.toList_append, hpath, ← List.append_assoc, List.getLast?_concat]
  intro h
  rw [Option.some.inj h] at hc
  exact absurd hc (by decide)

theorem not_includes_nil : ¬ Includes (includeLine paths) [] := by
  intro h
  have hlen : (includeLine paths).length = 0 := by
    rw [← h]
    rfl
  rw [includeLine, String.toList_append, List.length_append] at hlen
  simp at hlen

/-- A carriage return at the end of a line does not matter. -/
theorem trimChars_stripReturn (line : List Char) :
    trimChars rustBlank (stripReturn line) = trimChars rustBlank line := by
  rcases stripReturn_cases line with ⟨h, -⟩ | h
  · rw [h]
  · conv_rhs => rw [h]
    rw [trimChars_concat (by decide)]

theorem exists_trimEndNewlines (text : List Char) :
    ∃ n, text = trimEndNewlines text ++ List.replicate n '\n' := by
  induction text using List.reverseRecOn with
  | nil => exact ⟨0, rfl⟩
  | append_singleton text c ih =>
    obtain ⟨n, hn⟩ := ih
    by_cases hc : c = '\n'
    · refine ⟨n + 1, ?_⟩
      rw [trimEndNewlines, List.rdropWhile_concat_pos _ _ _ (by simp [hc]), ← trimEndNewlines,
        List.replicate_succ', ← List.append_assoc, ← hn, hc]
    · refine ⟨0, ?_⟩
      rw [trimEndNewlines, List.rdropWhile_concat_neg _ _ _ (by simp [hc]), List.replicate_zero,
        List.append_nil]

theorem getLast?_trimEndNewlines (text : List Char) :
    (trimEndNewlines text).getLast? ≠ some '\n' := by
  intro h
  obtain ⟨init, hinit⟩ := List.getLast?_eq_some_iff.mp h
  have hne : trimEndNewlines text ≠ [] := by
    rw [hinit]
    exact List.concat_ne_nil _ _
  have hlast := List.rdropWhile_last_not (· == '\n') text hne
  simp [trimEndNewlines] at hinit
  simp [hinit] at hlast

/-- What `addInclude` puts in front of the new line: lines that trim to lines of the text, and an
empty one if there was none. -/
theorem exists_lines_trimEndNewlines (config : List Char) : ∃ ls, ls ≠ [] ∧ (∀ l ∈ ls, Unbroken l) ∧
    trimEndNewlines config ++ ['\n'] = unlines ls ∧ ∀ l ∈ ls, l = [] ∨
      ∃ l' ∈ lines config, trimChars rustBlank l' = trimChars rustBlank l := by
  obtain ⟨ls, rest, htext, hls, hrest⟩ := exists_unlines (trimEndNewlines config)
  have hunbroken := forall_unbroken_concat hls hrest
  have hlines : trimEndNewlines config ++ ['\n'] = unlines (ls ++ [rest]) := by
    rw [htext, unlines_append, unlines_cons, unlines_nil, List.append_assoc]
  refine ⟨ls ++ [rest], List.concat_ne_nil _ _, hunbroken, hlines, fun l hl => ?_⟩
  obtain ⟨n, hconfig⟩ := exists_trimEndNewlines config
  cases n with
  | zero =>
    -- no newline was taken away, so the rest is the last line, if it is one
    rw [List.replicate_zero, List.append_nil, htext] at hconfig
    rw [hconfig, lines_unlines_append hls hrest]
    rcases List.mem_append.mp hl with hl | hl
    · refine Or.inr ⟨stripReturn l, ?_, trimChars_stripReturn l⟩
      exact List.mem_append_left _ (List.mem_map_of_mem hl)
    · obtain rfl := List.mem_singleton.mp hl
      by_cases hnil : l = []
      · exact Or.inl hnil
      · exact Or.inr ⟨l, List.mem_append_right _ (by rw [if_neg hnil]; exact hl), rfl⟩
  | succ n =>
    have hempty : unlines (List.replicate n []) = List.replicate n '\n' := by
      rw [unlines, List.flatMap_replicate, List.nil_append, List.flatten_replicate_singleton]
    have hall : ∀ l ∈ (ls ++ [rest]) ++ List.replicate n [], Unbroken l := by
      intro l hl
      rcases List.mem_append.mp hl with hl | hl
      · exact hunbroken l hl
      · rw [List.eq_of_mem_replicate hl]
        exact List.not_mem_nil
    rw [List.replicate_succ, ← List.singleton_append, ← List.append_assoc, hlines, ← hempty,
      ← unlines_append] at hconfig
    refine Or.inr ⟨stripReturn l, ?_, trimChars_stripReturn l⟩
    rw [hconfig, lines_unlines hall]
    exact List.mem_map_of_mem (List.mem_append_left _ hl)

/-- A configuration with the line in it stays as it is. -/
theorem addInclude_of_mem {config entry line : List Char} (hmem : line ∈ lines config)
    (hline : Includes entry line) : addInclude config entry = config := by
  refine if_pos ?_
  rw [List.any_eq_true]
  exact ⟨line, hmem, decide_eq_true hline⟩

/-- In another one the line comes last, after all of its lines. -/
theorem addInclude_of_not_mem {config entry : List Char}
    (h : ∀ line ∈ lines config, ¬ Includes entry line) :
    addInclude config entry = trimEndNewlines config ++ ['\n'] ++ (entry ++ ['\n']) := by
  have hany : ¬ ((lines config).any fun line => Includes entry line) = true := by
    rw [List.any_eq_true]
    rintro ⟨line, hmem, hline⟩
    exact h line hmem (of_decide_eq_true hline)
  rw [addInclude, if_neg hany, List.append_assoc, List.append_assoc]
  rfl

/-- The line is there afterwards. -/
theorem exists_includes_addInclude (config : List Char) :
    ∃ line ∈ lines (addInclude config (includeLine paths)), Includes (includeLine paths) line := by
  by_cases h : ∃ line ∈ lines config, Includes (includeLine paths) line
  · obtain ⟨line, hmem, hline⟩ := h
    rw [addInclude_of_mem hmem hline]
    exact ⟨line, hmem, hline⟩
  · have hnone : ∀ line ∈ lines config, ¬ Includes (includeLine paths) line :=
      fun line hmem hline => h ⟨line, hmem, hline⟩
    obtain ⟨ls, -, hls, htext, -⟩ := exists_lines_trimEndNewlines config
    refine ⟨includeLine paths, ?_, includes_includeLine⟩
    have hall := forall_unbroken_concat hls (@unbroken_includeLine paths)
    have hconfig : addInclude config (includeLine paths) = unlines (ls ++ [includeLine paths]) := by
      rw [addInclude_of_not_mem hnone, htext, unlines_append, unlines_cons, unlines_nil]
    rw [hconfig, lines_unlines hall, List.map_append, List.map_singleton, stripReturn_includeLine]
    exact List.mem_append_right _ List.mem_cons_self

/-- Removing the line from a text of lines leaves the text of the others, without carriage
returns at their ends. -/
theorem removeInclude_unlines {entry : List Char} {ls : List (List Char)}
    (hls : ∀ l ∈ ls, Unbroken l)
    (hkept : ∃ l ∈ ls, ¬ Includes entry (stripReturn l)) :
    removeInclude (unlines ls) entry =
      unlines ((ls.map stripReturn).filter fun line => ¬ Includes entry line) := by
  obtain ⟨l, hl, hline⟩ := hkept
  have hnil : ((ls.map stripReturn).filter fun line => ¬ Includes entry line) ≠ [] :=
    List.ne_nil_of_mem (List.mem_filter.mpr ⟨List.mem_map_of_mem hl, decide_eq_true hline⟩)
  have hend : (unlines ls).getLast? = some '\n' := getLast?_unlines (List.ne_nil_of_mem hl)
  rw [removeInclude, lines_unlines hls]
  simp only [hend, true_or, if_true]
  exact joinLines_concat_newline hnil

/-- With plain line breaks the other lines stay as they are. -/
theorem removeInclude_unlines_of_plain {entry : List Char} {ls : List (List Char)}
    (hls : ∀ l ∈ ls, Unbroken l) (hplain : PlainBreaks (unlines ls))
    (hkept : ∃ l ∈ ls, ¬ Includes entry l) :
    removeInclude (unlines ls) entry = unlines (ls.filter fun line => ¬ Includes entry line) := by
  have hstrip := (plainBreaks_unlines_iff hls).mp hplain
  obtain ⟨l, hl, hline⟩ := hkept
  have hmap : ls.map stripReturn = ls := by rw [List.map_congr_left hstrip, List.map_id']
  rw [removeInclude_unlines hls ⟨l, hl, by rwa [hstrip l hl]⟩, hmap]

/-- The text ends with one newline, not more. -/
def EndsOnce (text : List Char) : Prop :=
  ∃ init, text = init ++ ['\n'] ∧ init.getLast? ≠ some '\n'

theorem endsOnce_iff {text : List Char} : EndsOnce text ↔ text = trimEndNewlines text ++ ['\n'] := by
  refine ⟨?_, fun h => ⟨_, h, getLast?_trimEndNewlines text⟩⟩
  rintro ⟨init, rfl, hinit⟩
  have hself : trimEndNewlines init = init := by
    rw [trimEndNewlines, List.rdropWhile_eq_self_iff]
    intro hne hlast
    rw [List.getLast?_eq_getLast_of_ne_nil hne] at hinit
    exact hinit (congrArg some (by simpa using hlast))
  rw [trimEndNewlines, List.rdropWhile_concat_pos _ _ _ rfl, ← trimEndNewlines, hself]

/-- **The line comes and goes without a trace exactly if the text ends with one newline and breaks
its lines with plain newlines.** -/
theorem removeInclude_addInclude {config : List Char}
    (h : ∀ line ∈ lines config, ¬ Includes (includeLine paths) line) :
    removeInclude (addInclude config (includeLine paths)) (includeLine paths) = config ↔
      EndsOnce config ∧ PlainBreaks config := by
  obtain ⟨ls, hne, hls, htext, htrim⟩ := exists_lines_trimEndNewlines config
  have hothers : ∀ l ∈ ls, ¬ Includes (includeLine paths) (stripReturn l) := by
    intro l hl hline
    rw [Includes, trimChars_stripReturn] at hline
    rcases htrim l hl with rfl | ⟨l', hl', htrim⟩
    · exact not_includes_nil hline
    · exact h l' hl' (htrim.trans hline)
  have hall := forall_unbroken_concat hls (@unbroken_includeLine paths)
  have hkept : ((ls ++ [includeLine paths]).map stripReturn).filter
      (fun line => ¬ Includes (includeLine paths) line) = ls.map stripReturn := by
    have hdrop : decide (¬ Includes (includeLine paths) (includeLine paths)) = false :=
      decide_eq_false (not_not.mpr includes_includeLine)
    rw [List.map_append, List.map_singleton, stripReturn_includeLine, List.filter_append,
      List.filter_singleton, hdrop, cond_false, List.append_nil, List.filter_eq_self]
    intro line hline
    obtain ⟨l, hl, rfl⟩ := List.mem_map.mp hline
    exact decide_eq_true (hothers l hl)
  obtain ⟨l, hl⟩ := List.exists_mem_of_ne_nil ls hne
  have hresult : removeInclude (addInclude config (includeLine paths)) (includeLine paths) =
      unlines (ls.map stripReturn) := by
    have hconfig : addInclude config (includeLine paths) = unlines (ls ++ [includeLine paths]) := by
      rw [addInclude_of_not_mem h, htext, unlines_append, unlines_cons, unlines_nil]
    rw [hconfig, removeInclude_unlines hall ⟨l, List.mem_append_left _ hl, hothers l hl⟩, hkept]
  rw [hresult, endsOnce_iff, htext]
  constructor
  · intro heq
    -- the result is not longer than the text with one newline at its end
    obtain ⟨n, hconfig⟩ := exists_trimEndNewlines config
    obtain ⟨hle, hstrip⟩ := length_unlines_map_stripReturn ls
    have hlen := congrArg List.length hconfig
    have hlen' := congrArg List.length htext
    rw [heq, ← htext] at hle hstrip
    simp only [List.length_append, List.length_replicate, List.length_singleton] at hlen hlen' hle
    cases n with
    | zero =>
      rw [List.replicate_zero, List.append_nil] at hconfig
      have hlast : config.getLast? = some '\n' := by
        rw [← heq]
        exact getLast?_unlines (by simpa using hne)
      rw [hconfig] at hlast
      exact absurd hlast (getLast?_trimEndNewlines config)
    | succ n =>
      obtain rfl : n = 0 := by omega
      have hone : config = unlines ls := hconfig.trans htext
      refine ⟨hone, ?_⟩
      rw [hone, plainBreaks_unlines_iff hls]
      exact hstrip (by rw [htext, ← hone])
  · rintro ⟨hone, hplain⟩
    rw [hone] at hplain ⊢
    rw [List.map_congr_left ((plainBreaks_unlines_iff hls).mp hplain), List.map_id']

end Texts

end WaydroidBridge

end Wroid
