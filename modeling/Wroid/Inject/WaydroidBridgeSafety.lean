import Wroid.Inject.WaydroidBridge
import Wroid.Lib.Json

/-!
# What the bridge does to the configuration files

One change of a file either takes place or leaves both files alone: a call that fails only ever
spoils the temporary file.  So the calls are described by what becomes of the two configuration
files, and by whether they leave the host clear, which means that no call is bound to fail.

## Main definitions

* `Clear` — nothing gets in the way of the calls to come.
* `RollbackSucceeds` — if the installation comes to undo the fragment, this succeeds.

## Main results

* `install_cleanup_restores_iff` — installing and cleaning up restores both files exactly when the
  main configuration has the line already, or ends with one newline and has plain line breaks.
* `cleanup_keeps_edits` — **the cleanup takes the line out of whatever text it finds, and
  `removeBridge` finds nothing more to do**.
* `install_error_unchanged` — **an installation that fails leaves both files as they were, if it
  can undo the fragment**.
-/

namespace Wroid

open Lib

namespace WaydroidBridge

/-! ### One call -/

namespace BridgeHost

/-- The files under their own names. -/
def configs (host : BridgeHost) (file : ConfigFile) : Option Node := host.node (.config file)

@[simp] theorem node_next (host : BridgeHost) : host.next.node = host.node := rfl

@[simp] theorem node_setNode (host : BridgeHost) (path : BridgePath) (node : Option Node) :
    (host.setNode path node).node = Function.update host.node path node := rfl

/-- The host with another file, or none, under a name of its own. -/
theorem configs_setNode_config (host : BridgeHost) (file : ConfigFile) (node : Option Node) :
    (host.setNode (.config file) node).configs = Function.update host.configs file node := by
  funext f
  by_cases hf : f = file
  · subst hf
    rw [configs, node_setNode, Function.update_self, Function.update_self]
  · have hne : BridgePath.config f ≠ .config file := fun h => hf (BridgePath.config.inj h)
    rw [configs, node_setNode, Function.update_of_ne hne, Function.update_of_ne hf]
    rfl

@[simp] theorem configs_setNode_temporary (host : BridgeHost) (file : ConfigFile)
    (node : Option Node) : (host.setNode (.temporary file) node).configs = host.configs := by
  funext f
  have hne : BridgePath.config f ≠ .temporary file := nofun
  rw [configs, node_setNode, Function.update_of_ne hne]
  rfl

theorem seen_eq (host : BridgeHost) (file : ConfigFile) :
    host.seen file = (host.configs file).map fun
      | .file contents _ => some contents
      | .directory => none := rfl

theorem seen_congr {host host' : BridgeHost} {file : ConfigFile}
    (h : host'.configs file = host.configs file) : host'.seen file = host.seen file := by
  rw [seen_eq, seen_eq, h]

theorem seen_eq_text_iff {host : BridgeHost} {file : ConfigFile} {contents : ByteArray} :
    host.seen file = some (some contents) ↔ ∃ mode, host.configs file = some (.file contents mode) := by
  rw [seen_eq]
  cases host.configs file with
  | none => simp
  | some node => cases node <;> simp

theorem seen_eq_none_iff {host : BridgeHost} {file : ConfigFile} :
    host.seen file = none ↔ host.configs file = none := by
  rw [seen_eq, Option.map_eq_none_iff]

end BridgeHost

open BridgeHost

/-- No call to come is bound to fail, and no directory has the name of a file. -/
structure Clear (host : BridgeHost) : Prop where
  fault : ∀ n, host.calls ≤ n → host.fault n = none
  free : ∀ path, host.node path ≠ some .directory

theorem Clear.next {host : BridgeHost} (h : Clear host) : Clear host.next :=
  ⟨fun n hn => h.fault n (Nat.le_of_succ_le hn), h.free⟩

theorem Clear.setNode {host : BridgeHost} (h : Clear host) (path : BridgePath) {node : Option Node}
    (hnode : node ≠ some .directory) : Clear (host.setNode path node) := by
  refine ⟨h.fault, fun path' => ?_⟩
  rw [node_setNode]
  by_cases hpath : path' = path
  · rwa [hpath, Function.update_self]
  · rw [Function.update_of_ne hpath]
    exact h.free path'

/-- The configuration files became `configs`, and nothing new gets in the way. -/
structure Became (host : BridgeHost) (configs : ConfigFile → Option Node) (host' : BridgeHost) :
    Prop where
  configs : host'.configs = configs
  clear : Clear host → Clear host'

abbrev Quiet (host host' : BridgeHost) : Prop := Became host host.configs host'

theorem Quiet.refl (host : BridgeHost) : Quiet host host := ⟨rfl, id⟩

theorem Quiet.became {host host₁ host₂ : BridgeHost} {configs : ConfigFile → Option Node}
    (h : Quiet host host₁) (h' : Became host₁ configs host₂) : Became host configs host₂ :=
  ⟨h'.configs, h'.clear ∘ h.clear⟩

theorem Quiet.trans {host host₁ host₂ : BridgeHost} (h : Quiet host host₁)
    (h' : Quiet host₁ host₂) : Quiet host host₂ :=
  ⟨h'.configs.trans h.configs, h'.clear ∘ h.clear⟩

/-- A call fails at its turn only if the host is not clear. -/
theorem wp_call {α : Type} {broken : Fault → BridgeHost → BridgeHost}
    {run : BridgeHost → Except IoError (α × BridgeHost)} {Q : α → BridgeHost → Prop}
    {R : IoError → BridgeHost → Prop} {host : BridgeHost}
    (hbroken : ∀ fault : Fault, ¬ Clear host → R fault.error (broken fault host.next))
    (hok : ∀ a host', run host.next = .ok (a, host') → Q a host')
    (herror : ∀ error, run host.next = .error error → R error host.next) :
    wp (call broken run) Q R host := by
  unfold wp call
  cases hfault : host.fault host.calls with
  | some fault => exact hbroken fault fun h => nomatch (h.fault host.calls le_rfl).symm.trans hfault
  | none =>
    cases hrun : run host.next with
    | ok r => exact hok r.1 r.2 hrun
    | error error => exact herror error hrun

theorem quiet_next (host : BridgeHost) : Quiet host host.next := ⟨rfl, Clear.next⟩

/-- Reading finds the contents of the file; without a reason to fail it fails only for want of it. -/
theorem wp_read (host : BridgeHost) (path : BridgePath) :
    wp (read path)
      (fun contents h => h.node = host.node ∧ Quiet host h ∧
        ∃ mode, host.node path = some (.file contents mode))
      (fun error h => h.node = host.node ∧ Quiet host h ∧
        (error.kind = .notFound → host.node path = none) ∧ (Clear host → error = missing)) host := by
  refine wp_call (fun fault hclear => ?_) (fun contents host' hrun => ?_) fun error hrun => ?_
  · exact ⟨rfl, quiet_next host, fun h => absurd h fault.real, fun h => absurd h hclear⟩
  · rw [node_next] at hrun
    split at hrun <;> cases hrun
    next mode hnode => exact ⟨rfl, quiet_next host, mode, hnode⟩
  · rw [node_next] at hrun
    refine ⟨rfl, quiet_next host, ?_⟩
    split at hrun <;> cases hrun
    · next hnode => exact ⟨nofun, fun h => absurd hnode (h.free path)⟩
    · next hnode => exact ⟨fun _ => hnode, fun _ => rfl⟩

/-- Reading the permissions fails without a reason only for want of the file. -/
theorem wp_permissions (host : BridgeHost) (path : BridgePath) :
    wp (permissions path) (fun _ h => h.node = host.node ∧ Quiet host h)
      (fun _ h => h.node = host.node ∧ Quiet host h ∧ (Clear host → host.node path = none)) host := by
  refine wp_call (fun fault hclear => ?_) (fun mode host' hrun => ?_) fun error hrun => ?_
  · exact ⟨rfl, quiet_next host, fun h => absurd h hclear⟩
  · rw [node_next] at hrun
    split at hrun <;> cases hrun
    · exact ⟨rfl, quiet_next host⟩
    · exact ⟨rfl, quiet_next host⟩
  · rw [node_next] at hrun
    split at hrun <;> cases hrun
    next hnode => exact ⟨rfl, quiet_next host, fun _ => hnode⟩

theorem wp_createDirAll (host : BridgeHost) :
    wp createDirAll (fun _ h => Quiet host h) (fun _ h => Quiet host h ∧ ¬ Clear host) host := by
  refine wp_call (fun fault hclear => ?_) (fun u host' hrun => ?_) fun error hrun => ?_
  · exact ⟨quiet_next host, hclear⟩
  · cases hrun
    exact quiet_next host
  · cases hrun

/-- Filling a temporary file does not touch the configuration files. -/
theorem quiet_store (host : BridgeHost) (file : ConfigFile) (contents : ByteArray) :
    Quiet host (host.store (.temporary file) contents) := by
  unfold store
  split
  · exact ⟨configs_setNode_temporary .., fun h => h.setNode _ nofun⟩
  · exact .refl host
  · exact ⟨configs_setNode_temporary .., fun h => h.setNode _ nofun⟩

theorem node_store {host : BridgeHost} {path : BridgePath} (contents : ByteArray)
    (h : host.node path ≠ some .directory) :
    ∃ mode, (host.store path contents).node path = some (.file contents mode) := by
  unfold store
  split
  · next mode _ => exact ⟨mode, Function.update_self ..⟩
  · next hnode => exact absurd hnode h
  · exact ⟨host.newFileMode, Function.update_self ..⟩

/-- Writing a temporary file. -/
theorem wp_write (host : BridgeHost) (file : ConfigFile) (contents : ByteArray) :
    wp (write (.temporary file) contents)
      (fun _ h => Quiet host h ∧ ∃ mode, h.node (.temporary file) = some (.file contents mode))
      (fun _ h => h.configs = host.configs ∧ ¬ Clear host) host := by
  refine wp_call (fun fault hclear => ?_) (fun u host' hrun => ?_) fun error hrun => ?_
  · refine ⟨?_, hclear⟩
    split
    · exact ((quiet_next host).trans (quiet_store _ _ _)).configs
    · rfl
  · rw [node_next] at hrun
    split at hrun
    · cases hrun
    · next hnode =>
      obtain ⟨-, rfl⟩ := Prod.mk.inj (Except.ok.inj hrun)
      exact ⟨(quiet_next host).trans (quiet_store _ _ _), node_store contents hnode⟩
  · rw [node_next] at hrun
    split at hrun
    · next hnode => exact ⟨rfl, fun h => h.free _ hnode⟩
    · cases hrun

theorem wp_setPermissions {host : BridgeHost} {file : ConfigFile} {contents : ByteArray} {mode : ℕ}
    (hnode : host.node (.temporary file) = some (.file contents mode)) (mode' : ℕ) :
    wp (setPermissions (.temporary file) mode')
      (fun _ h => Quiet host h ∧ h.node (.temporary file) = some (.file contents mode'))
      (fun _ h => h.configs = host.configs ∧ ¬ Clear host) host := by
  refine wp_call (fun fault hclear => ?_) (fun u host' hrun => ?_) fun error hrun => ?_
  · exact ⟨rfl, hclear⟩
  · rw [node_next, hnode] at hrun
    cases hrun
    refine ⟨⟨configs_setNode_temporary .., fun h => h.next.setNode _ nofun⟩, ?_⟩
    exact Function.update_self ..
  · rw [node_next, hnode] at hrun
    cases hrun

/-- The rename is where the change of a file takes place. -/
theorem wp_rename {host : BridgeHost} {file : ConfigFile} {contents : ByteArray} {mode : ℕ}
    (hnode : host.node (.temporary file) = some (.file contents mode)) :
    wp (rename (.temporary file) (.config file))
      (fun _ h => Became host
        (Function.update host.configs file (some (.file contents mode))) h)
      (fun _ h => h.configs = host.configs ∧ ¬ Clear host) host := by
  refine wp_call (fun fault hclear => ?_) (fun u host' hrun => ?_) fun error hrun => ?_
  · exact ⟨rfl, hclear⟩
  · rw [node_next, hnode] at hrun
    simp only at hrun
    split at hrun
    · cases hrun
    · cases hrun
      have hfile : some (Node.file contents mode) ≠ some .directory := nofun
      have hnone : (none : Option Node) ≠ some .directory := nofun
      refine ⟨?_, fun h => (h.next.setNode _ hfile).setNode _ hnone⟩
      rw [configs_setNode_temporary, configs_setNode_config]
      rfl
  · rw [node_next, hnode] at hrun
    simp only at hrun
    split at hrun
    · next hdirectory => exact ⟨rfl, fun h => h.free _ hdirectory⟩
    · cases hrun

theorem wp_removeFile (host : BridgeHost) (file : ConfigFile) :
    wp (removeFile (.config file)) (fun _ h => Became host (Function.update host.configs file none) h)
      (fun error h => Quiet host h ∧ (error.kind = .notFound → host.configs file = none) ∧
        (Clear host → error = missing)) host := by
  refine wp_call (fun fault hclear => ?_) (fun u host' hrun => ?_) fun error hrun => ?_
  · exact ⟨quiet_next host, fun h => absurd h fault.real, fun h => absurd h hclear⟩
  · rw [node_next] at hrun
    split at hrun <;> cases hrun
    exact ⟨configs_setNode_config .., fun h => h.next.setNode _ nofun⟩
  · rw [node_next] at hrun
    refine ⟨quiet_next host, ?_⟩
    split at hrun <;> cases hrun
    · next hnode => exact ⟨nofun, fun h => absurd hnode (h.free _)⟩
    · next hnode => exact ⟨fun _ => hnode, fun _ => rfl⟩

/-- Removing a temporary file does not touch the configuration files. -/
theorem wp_removeTemporary (host : BridgeHost) (file : ConfigFile) :
    wp (removeFile (.temporary file)) (fun _ h => h.configs = host.configs)
      (fun _ h => h.configs = host.configs) host := by
  refine wp_call (fun fault hclear => rfl) (fun u host' hrun => ?_) fun error hrun => rfl
  rw [node_next] at hrun
  split at hrun <;> cases hrun
  exact configs_setNode_temporary ..

/-! ### One file -/

theorem wp_replaceFile (host : BridgeHost) (file : ConfigFile) (contents : ByteArray) (mode : ℕ) :
    wp (replaceFile file contents mode)
      (fun _ h => Became host (Function.update host.configs file (some (.file contents mode))) h)
      (fun _ h => h.configs = host.configs ∧ ¬ Clear host) host := by
  rw [replaceFile, wp_bind]
  refine wp_mono (wp_write host file contents) ?_ fun _ _ hfail => hfail
  rintro _ h₁ ⟨hquiet₁, mode₁, hnode₁⟩
  rw [wp_bind]
  refine wp_mono (wp_setPermissions hnode₁ mode) ?_ fun error h hfail => ?_
  · rintro _ h₂ ⟨hquiet₂, hnode₂⟩
    have hquiet := hquiet₁.trans hquiet₂
    refine wp_mono (wp_rename hnode₂) (fun _ h₃ hbecame => ?_) fun error h hfail => ?_
    · rw [hquiet.configs] at hbecame
      exact hquiet.became hbecame
    · exact ⟨hfail.1.trans hquiet.configs, fun hc => hfail.2 (hquiet.clear hc)⟩
  · exact ⟨hfail.1.trans hquiet₁.configs, fun hc => hfail.2 (hquiet₁.clear hc)⟩

/-- **A file is replaced, or both are as they were.** -/
theorem wp_atomicWrite (host : BridgeHost) (file : ConfigFile) (contents : ByteArray) (mode : ℕ) :
    wp (atomicWrite file contents mode)
      (fun _ h => Became host (Function.update host.configs file (some (.file contents mode))) h)
      (fun _ h => h.configs = host.configs ∧ ¬ Clear host) host := by
  rw [atomicWrite, wp_bind]
  refine wp_mono (wp_createDirAll host) (fun _ h₁ hquiet => ?_) fun _ h hfail => ?_
  · rw [wp_bind, wp_attempt]
    refine wp_mono (wp_replaceFile h₁ file contents mode) (fun _ h hbecame => ?_) ?_
    · rw [hquiet.configs] at hbecame
      exact hquiet.became hbecame
    · -- what a failing step leaves under the temporary name is removed
      rintro error h ⟨hconfigs, hclear⟩
      have hsame : ∀ t : BridgeHost, t.configs = h.configs →
          t.configs = host.configs ∧ ¬ Clear host := fun t ht =>
        ⟨ht.trans (hconfigs.trans hquiet.configs), fun hc => hclear (hquiet.clear hc)⟩
      simp only [wp_bind, wp_attempt, wp_throw]
      exact wp_mono (wp_removeTemporary h file) (fun _ t => hsame t) fun _ t => hsame t
  · exact ⟨hfail.1.configs, hfail.2⟩

theorem wp_removeFileIfExists (host : BridgeHost) (file : ConfigFile) :
    wp (removeFileIfExists file)
      (fun _ h => Became host (Function.update host.configs file none) h)
      (fun _ h => h.configs = host.configs ∧ ¬ Clear host) host := by
  rw [removeFileIfExists, wp_bind, wp_attempt]
  refine wp_mono (wp_removeFile host file) (fun _ h hbecame => hbecame) ?_
  rintro error h ⟨hquiet, habsent, hmissing⟩
  simp only [wp_ite, wp_pure, wp_throw]
  split
  · next hkind =>
    have hnone : Function.update host.configs file none = host.configs := by
      rw [← habsent hkind, Function.update_eq_self]
    rwa [hnone]
  · next hkind => exact ⟨hquiet.configs, fun h => hkind (hmissing h ▸ rfl)⟩

/-- What is there once a file has been restored. -/
def restored (original : Option ByteArray) (mode : Option ℕ) : Option Node :=
  original.map fun contents => .file contents (mode.getD 0o644)

theorem wp_restoreManagedFile (host : BridgeHost) (file : ConfigFile) (original : Option ByteArray)
    (mode : Option ℕ) :
    wp (restoreManagedFile file original mode)
      (fun _ h => Became host (Function.update host.configs file (restored original mode)) h)
      (fun _ h => h.configs = host.configs ∧ ¬ Clear host) host := by
  cases original with
  | none => exact wp_removeFileIfExists host file
  | some contents => exact wp_atomicWrite host file contents _

/-! ### Installing -/

theorem wp_readOriginalManaged (host : BridgeHost) :
    wp readOriginalManaged
      (fun originalManaged h => h.node = host.node ∧ Quiet host h ∧
        host.seen .managed = originalManaged.map some)
      (fun _ h => Quiet host h ∧ ¬ Clear host) host := by
  rw [readOriginalManaged, wp_bind, wp_attempt]
  refine wp_mono (wp_read host (.config .managed)) ?_ ?_
  · rintro contents h ⟨hnode, hquiet, mode, hcontents⟩
    exact ⟨hnode, hquiet, seen_eq_text_iff.mpr ⟨mode, hcontents⟩⟩
  · rintro error h ⟨hnode, hquiet, habsent, hmissing⟩
    simp only [wp_ite, wp_pure, wp_throw]
    split
    · next hkind => exact ⟨hnode, hquiet, seen_eq_none_iff.mpr (habsent hkind)⟩
    · next hkind => exact ⟨hquiet, fun hclear => hkind (hmissing hclear ▸ rfl)⟩

theorem wp_readOriginalManagedMode {host : BridgeHost} {originalManaged : Option ByteArray}
    (hmanaged : host.seen .managed = originalManaged.map some) :
    wp (readOriginalManagedMode originalManaged) (fun _ h => h.node = host.node ∧ Quiet host h)
      (fun _ h => Quiet host h ∧ ¬ Clear host) host := by
  cases originalManaged with
  | none => exact ⟨rfl, .refl host⟩
  | some contents =>
    rw [readOriginalManagedMode, wp_map]
    refine wp_mono (wp_permissions host (.config .managed)) (fun _ h hlooked => hlooked) ?_
    rintro error h ⟨-, hquiet, habsent⟩
    refine ⟨hquiet, fun hclear => ?_⟩
    rw [seen_eq_none_iff.mpr (habsent hclear)] at hmanaged
    cases hmanaged

/-- What `prepare` finds out; it fails on a clear host only if the fragment cannot be rendered or
the main configuration is no text. -/
theorem wp_prepare (paths : WaydroidBridgePaths) (node : InputDeviceNode) (cgroupMode : CgroupMode)
    (host : BridgeHost) :
    wp (prepare paths node cgroupMode)
      (fun p h => Quiet host h ∧ ∃ text : String, host.seen .main = some (some text.toUTF8) ∧
        p.updatedMain = String.ofList (addInclude text.toList (includeLine paths)) ∧
        (p.includeAdded = true ↔ p.updatedMain ≠ text) ∧
        host.seen .managed = p.originalManaged.map some)
      (fun _ h => Quiet host h ∧ (Clear host → ∀ text : String,
        host.seen .main = some (some text.toUTF8) →
          ∃ error, renderBridgeConfig node cgroupMode = .error error)) host := by
  rw [prepare, wp_bind]
  refine wp_mono (wp_read host (.config .main)) ?_ ?_
  · rintro originalMain h₁ ⟨hnode₁, hquiet₁, mainMode, hmain⟩
    have hseen : host.seen .main = some (some originalMain) := seen_eq_text_iff.mpr ⟨mainMode, hmain⟩
    rw [wp_bind]
    refine wp_mono (wp_readOriginalManaged h₁) ?_ ?_
    · rintro originalManaged h₂ ⟨hnode₂, hquiet₂, hmanaged⟩
      have hquiet₂ := hquiet₁.trans hquiet₂
      have hmanaged₂ : h₂.seen .managed = originalManaged.map some :=
        (seen_congr (congrFun (hquiet₂.configs.trans hquiet₁.configs.symm) .managed)).trans hmanaged
      rw [seen_congr (congrFun hquiet₁.configs .managed)] at hmanaged
      rw [wp_bind]
      refine wp_mono (wp_readOriginalManagedMode hmanaged₂) ?_
        fun _ h hfail => ⟨hquiet₂.trans hfail.1, fun h => absurd (hquiet₂.clear h) hfail.2⟩
      rintro originalManagedMode h₃ ⟨hnode₃, hquiet₃⟩
      have hquiet₃ := hquiet₂.trans hquiet₃
      cases htext : String.fromUTF8? originalMain with
      | none =>
        simp only [wp_bind, wp_get, wp_throw]
        refine ⟨hquiet₃, fun _ text hmainText => ?_⟩
        rw [hseen, Option.some.injEq, Option.some.injEq] at hmainText
        rw [fromUTF8?_eq_some.mpr hmainText] at htext
        cases htext
      | some text =>
        obtain rfl := fromUTF8?_eq_some.mp htext
        cases hrender : renderBridgeConfig node cgroupMode with
        | error error =>
          rw [wp_throw]
          exact ⟨hquiet₃, fun _ _ _ => ⟨error, rfl⟩⟩
        | ok managed =>
          rw [wp_bind]
          refine wp_mono (wp_permissions h₃ (.config .main)) ?_ ?_
          · rintro mode h₄ ⟨-, hquiet₄⟩
            refine ⟨hquiet₃.trans hquiet₄, text, hseen, rfl, ?_, hmanaged⟩
            exact decide_eq_true_iff.trans (not_congr String.toByteArray_inj)
          · rintro error h₄ ⟨-, hquiet₄, habsent⟩
            refine ⟨hquiet₃.trans hquiet₄, fun hclear => ?_⟩
            have hnone := habsent (hquiet₃.clear hclear)
            rw [hnode₃, hnode₂, hnode₁, hmain] at hnone
            cases hnone
    · rintro error h ⟨hquiet, hclear⟩
      exact ⟨hquiet₁.trans hquiet, fun h => absurd (hquiet₁.clear h) hclear⟩
  · rintro error h ⟨-, hquiet, habsent, hmissing⟩
    refine ⟨hquiet, fun hclear text hmain => ?_⟩
    obtain ⟨mode, hmain⟩ := seen_eq_text_iff.mp hmain
    have hnone := habsent (hmissing hclear ▸ rfl)
    rw [configs, hnone] at hmain
    cases hmain

/-- Where the installation, started in `host`, begins to undo the fragment, if it comes to that. -/
def rollbackPoint (paths : WaydroidBridgePaths) (node : InputDeviceNode) (cgroupMode : CgroupMode)
    (host : BridgeHost) : Option (Preparation × BridgeHost) :=
  match prepare paths node cgroupMode host with
  | .error .. => none
  | .ok p prepared =>
    match atomicWrite .managed p.managed.toUTF8 p.managedMode prepared with
    | .error .. => none
    | .ok _ staged =>
      if p.includeAdded then
        match atomicWrite .main p.updatedMain.toUTF8 p.mainMode staged with
        | .error _ failed => some (p, failed)
        | .ok .. => none
      else none

/-- If the installation undoes the fragment, this succeeds. -/
def RollbackSucceeds (paths : WaydroidBridgePaths) (node : InputDeviceNode)
    (cgroupMode : CgroupMode) (host : BridgeHost) : Prop :=
  ∀ r ∈ rollbackPoint paths node cgroupMode host, returnsWith (fun _ => true)
    (restoreManagedFile .managed r.1.originalManaged r.1.originalManagedMode) r.2 = true

instance (paths : WaydroidBridgePaths) (node : InputDeviceNode) (cgroupMode : CgroupMode)
    (host : BridgeHost) : Decidable (RollbackSucceeds paths node cgroupMode host) :=
  inferInstanceAs (Decidable (∀ r ∈ _, _))

theorem seen_update_text (host : BridgeHost) {configs : ConfigFile → Option Node} {file : ConfigFile}
    {original : Option ByteArray} {mode : Option ℕ}
    (h : host.configs = Function.update configs file (restored original mode)) :
    host.seen file = original.map some := by
  rw [seen_eq, h, Function.update_self]
  cases original <;> rfl

/-- Writing the main configuration: it is replaced, or the fragment is undone, if this succeeds. -/
theorem wp_publishInclude (p : Preparation) (host : BridgeHost) :
    wp (publishInclude p)
      (fun _ h => Became host
        (Function.update host.configs .main (some (.file p.updatedMain.toUTF8 p.mainMode))) h)
      (fun _ h => ¬ Clear host ∧ ∃ error h', h'.configs = host.configs ∧
        atomicWrite .main p.updatedMain.toUTF8 p.mainMode host = .error error h' ∧
        (returnsWith (fun _ => true)
            (restoreManagedFile .managed p.originalManaged p.originalManagedMode) h' = true →
          h.configs .main = host.configs .main ∧
          h.seen .managed = p.originalManaged.map some)) host := by
  rw [publishInclude, wp_bind, wp_attempt]
  refine wp_mono (wp_and (wp_self _ host) (wp_atomicWrite host .main _ _)) ?_ ?_
  · rintro _ h ⟨-, hbecame⟩
    exact hbecame
  · rintro error h ⟨hfails, hconfigs, hclear⟩
    simp only [wp_bind, wp_attempt, wp_throw]
    have hspec := wp_restoreManagedFile h .managed p.originalManaged p.originalManagedMode
    refine wp_mono (wp_and (wp_self _ h) hspec) ?_ ?_
    · rintro _ h' ⟨-, hbecame⟩
      refine ⟨hclear, error, h, hconfigs, hfails, fun _ => ⟨?_, seen_update_text h' hbecame.configs⟩⟩
      have hne : ConfigFile.main ≠ .managed := by decide
      rw [hbecame.configs, Function.update_of_ne hne, hconfigs]
    · rintro restoreError h' ⟨hfailed, -⟩
      refine ⟨hclear, error, h, hconfigs, hfails, ?_⟩
      rw [returnsWith, hfailed]
      simp

/-- **The installation succeeds with the line in the main configuration and the fragment there, or
it leaves both files as they were, unless it could not undo the fragment.** -/
theorem wp_install (paths : WaydroidBridgePaths) (node : InputDeviceNode) (cgroupMode : CgroupMode)
    (host : BridgeHost) :
    wp (install paths node cgroupMode)
      (fun bridge h => bridge.paths = paths ∧ host.seen .managed = bridge.originalManaged.map some ∧
        (Clear host → Clear h) ∧
        ∃ text : String, host.seen .main = some (some text.toUTF8) ∧
          let updated := String.ofList (addInclude text.toList (includeLine paths))
          (bridge.includeAdded = true ↔ updated ≠ text) ∧
          h.seen .main = some (some updated.toUTF8))
      (fun _ h => (RollbackSucceeds paths node cgroupMode host →
          ∀ file, h.seen file = host.seen file) ∧
        (Clear host → ∀ text : String, host.seen .main = some (some text.toUTF8) →
          ∃ error, renderBridgeConfig node cgroupMode = .error error)) host := by
  rw [install, wp_bind]
  refine wp_mono (wp_and (wp_self _ host) (wp_prepare paths node cgroupMode host)) ?_ ?_
  · rintro p h₁ ⟨hprepare, hquiet₁, text, hmain, hupdated, hadded, hmanaged⟩
    rw [wp_bind]
    refine wp_mono (wp_and (wp_self _ h₁) (wp_atomicWrite h₁ .managed _ _)) ?_ ?_
    · rintro _ h₂ ⟨hstage, hbecame₂⟩
      have hmainConfig : h₂.configs .main = host.configs .main := by
        have hne : ConfigFile.main ≠ .managed := by decide
        rw [hbecame₂.configs, Function.update_of_ne hne, hquiet₁.configs]
      rw [wp_bind, wp_ite]
      split
      · next hincludeAdded =>
        refine wp_mono (wp_publishInclude p h₂) ?_ ?_
        · intro _ h₃ hbecame₃
          refine ⟨rfl, hmanaged, hbecame₃.clear ∘ hbecame₂.clear ∘ hquiet₁.clear, text, hmain, ?_⟩
          rw [← hupdated]
          refine ⟨hadded, seen_eq_text_iff.mpr ⟨p.mainMode, ?_⟩⟩
          rw [hbecame₃.configs, Function.update_self]
        · rintro _ h₃ ⟨hclear, error, h', hconfigs, hfails, hundone⟩
          refine ⟨fun hsucceeds file => ?_, fun h => absurd (hbecame₂.clear (hquiet₁.clear h)) hclear⟩
          -- the rollback is the one that is assumed to succeed
          have hpoint : rollbackPoint paths node cgroupMode host = some (p, h') := by
            simp only [rollbackPoint, hprepare, hstage, hincludeAdded, if_true, hfails]
          obtain ⟨hmain₃, hmanaged₃⟩ := hundone (hsucceeds (p, h') hpoint)
          cases file with
          | main => exact seen_congr (hmain₃.trans hmainConfig)
          | managed => rw [hmanaged₃, hmanaged]
      · next hincludeAdded =>
        refine ⟨rfl, hmanaged, hbecame₂.clear ∘ hquiet₁.clear, text, hmain, ?_⟩
        have hsame : p.updatedMain = text := not_not.mp fun h => hincludeAdded (hadded.mpr h)
        rw [← hupdated]
        refine ⟨hadded, ?_⟩
        rw [hsame, ← hmain]
        exact seen_congr hmainConfig
    · rintro error h₂ ⟨-, hconfigs, hclear⟩
      refine ⟨fun _ file => ?_, fun h => absurd (hquiet₁.clear h) hclear⟩
      exact seen_congr (congrFun (hconfigs.trans hquiet₁.configs) file)
  · rintro error h ⟨-, hquiet, hreason⟩
    exact ⟨fun _ file => seen_congr (congrFun hquiet.configs file), hreason⟩

/-! ### Removing the line, and cleaning up -/

/-- The main configuration without the line. -/
def withoutInclude (paths : WaydroidBridgePaths) (text : String) : String :=
  String.ofList (removeInclude text.toList (includeLine paths))

theorem wp_readToString (host : BridgeHost) (path : BridgePath) :
    wp (readToString path)
      (fun text h => Quiet host h ∧ ∃ mode, host.node path = some (.file text.toUTF8 mode))
      (fun _ h => Quiet host h ∧ (Clear host → ∀ (text : String) mode,
        host.node path ≠ some (.file text.toUTF8 mode))) host := by
  rw [readToString, wp_bind]
  refine wp_mono (wp_read host path) ?_ ?_
  · rintro contents h ⟨-, hquiet, mode, hnode⟩
    cases htext : String.fromUTF8? contents with
    | some text =>
      rw [wp_pure]
      exact ⟨hquiet, mode, fromUTF8?_eq_some.mp htext ▸ hnode⟩
    | none =>
      rw [wp_throw]
      refine ⟨hquiet, fun _ text mode' hnode' => ?_⟩
      rw [hnode, Option.some.injEq, Node.file.injEq] at hnode'
      rw [fromUTF8?_eq_some.mpr hnode'.1] at htext
      cases htext
  · rintro error h ⟨-, hquiet, habsent, hmissing⟩
    refine ⟨hquiet, fun hclear text mode hnode => ?_⟩
    rw [habsent (hmissing hclear ▸ rfl)] at hnode
    cases hnode

/-- Removing the line rewrites the main configuration, unless that would not change it; either way
it leaves the text without the line. -/
theorem wp_removeManagedInclude (paths : WaydroidBridgePaths) (host : BridgeHost) :
    wp (removeManagedInclude paths)
      (fun _ h => h.configs .managed = host.configs .managed ∧ (Clear host → Clear h) ∧
        ∃ text : String, host.seen .main = some (some text.toUTF8) ∧
          h.seen .main = some (some (withoutInclude paths text).toUTF8))
      (fun _ h => h.configs = host.configs ∧ (Clear host → ∀ text : String,
        host.seen .main ≠ some (some text.toUTF8))) host := by
  rw [removeManagedInclude, wp_bind]
  refine wp_mono (wp_readToString host (.config .main)) ?_ ?_
  · rintro text h₁ ⟨hquiet₁, mode, hmain⟩
    have hseen : host.seen .main = some (some text.toUTF8) := seen_eq_text_iff.mpr ⟨mode, hmain⟩
    have hmain₁ : h₁.configs .main = some (.file text.toUTF8 mode) := by
      rw [hquiet₁.configs]
      exact hmain
    rw [wp_bind]
    refine wp_mono (wp_permissions h₁ (.config .main)) ?_ ?_
    · rintro mode₂ h₂ ⟨-, hquiet₂⟩
      have hquiet := hquiet₁.trans hquiet₂
      simp only [wp_ite, wp_pure]
      split
      · refine wp_mono (wp_atomicWrite h₂ .main _ mode₂) (fun _ h₃ hbecame => ?_) ?_
        · have hne : ConfigFile.managed ≠ .main := by decide
          refine ⟨?_, hbecame.clear ∘ hquiet.clear, text, hseen, ?_⟩
          · rw [hbecame.configs, Function.update_of_ne hne, hquiet.configs]
          · refine seen_eq_text_iff.mpr ⟨mode₂, ?_⟩
            rw [hbecame.configs, Function.update_self]
            rfl
        · rintro error h₃ ⟨hconfigs, hclear⟩
          exact ⟨hconfigs.trans hquiet.configs, fun h => absurd (hquiet.clear h) hclear⟩
      · next hsame =>
        have hsame : withoutInclude paths text = text := not_not.mp hsame
        refine ⟨congrFun hquiet.configs _, hquiet.clear, text, hseen, ?_⟩
        rw [hsame, ← hseen]
        exact seen_congr (congrFun hquiet.configs _)
    · rintro error h₂ ⟨-, hquiet₂, habsent⟩
      refine ⟨hquiet₂.configs.trans hquiet₁.configs, fun hclear => ?_⟩
      have hnone := habsent (hquiet₁.clear hclear)
      rw [configs, hnone] at hmain₁
      cases hmain₁
  · rintro error h ⟨hquiet, hreason⟩
    refine ⟨hquiet.configs, fun hclear text hseen => ?_⟩
    obtain ⟨mode, hmain⟩ := seen_eq_text_iff.mp hseen
    exact hreason hclear text mode hmain

namespace InstalledWaydroidBridge

theorem wp_restoreMain (bridge : InstalledWaydroidBridge) (host : BridgeHost) :
    wp bridge.restoreMain
      (fun _ h => h.configs .managed = host.configs .managed ∧ (Clear host → Clear h) ∧
        (bridge.includeAdded = false → h.seen .main = host.seen .main) ∧
        (bridge.includeAdded = true → ∃ text : String, host.seen .main = some (some text.toUTF8) ∧
          h.seen .main = some (some (withoutInclude bridge.paths text).toUTF8)))
      (fun _ _ => Clear host → ∀ text : String, host.seen .main ≠ some (some text.toUTF8)) host := by
  rw [restoreMain, wp_ite]
  split
  · next hadded =>
    refine wp_mono (wp_removeManagedInclude bridge.paths host) ?_ fun _ h hfail => hfail.2
    rintro _ h ⟨hmanaged, hclear, hmain⟩
    refine ⟨hmanaged, fun h => hclear h, fun hnot => ?_, fun _ => hmain⟩
    rw [hadded] at hnot
    cases hnot
  · next hadded => exact ⟨rfl, fun h => h, fun _ => rfl, fun h => absurd h hadded⟩

/-- A restoration that succeeds takes the line out and puts the fragment back. -/
theorem wp_restore (bridge : InstalledWaydroidBridge) (host : BridgeHost) :
    wp bridge.restore
      (fun _ h => h.seen .managed = bridge.originalManaged.map some ∧
        (bridge.includeAdded = false → h.seen .main = host.seen .main) ∧
        (bridge.includeAdded = true → ∃ text : String, host.seen .main = some (some text.toUTF8) ∧
          h.seen .main = some (some (withoutInclude bridge.paths text).toUTF8)))
      (fun _ _ => Clear host → ∀ text : String, host.seen .main ≠ some (some text.toUTF8)) host := by
  rw [restore, wp_bind, wp_attempt]
  refine wp_mono (bridge.wp_restoreMain host) ?_ ?_
  · rintro _ h₁ ⟨-, hclear₁, hsame, hremoved⟩
    rw [wp_bind, wp_attempt]
    have hspec := wp_restoreManagedFile h₁ .managed bridge.originalManaged
      bridge.originalManagedMode
    refine wp_mono hspec (fun _ h₂ hbecame => ?_) fun error h₂ hfail hclear => ?_
    · have hne : ConfigFile.main ≠ .managed := by decide
      have hmain : h₂.seen .main = h₁.seen .main :=
        seen_congr (by rw [hbecame.configs, Function.update_of_ne hne])
      rw [← hmain] at hsame hremoved
      exact ⟨seen_update_text h₂ hbecame.configs, hsame, hremoved⟩
    · exact absurd (hclear₁ hclear) hfail.2
  · -- whatever becomes of the fragment, the error of the main configuration is reported
    intro error h₁ hreason
    rw [wp_bind, wp_attempt]
    refine wp_mono wp_true ?_ ?_ <;> intro _ h₂ _
    · exact hreason
    · exact hreason

theorem wp_cleanup (bridge : InstalledWaydroidBridge) (host : BridgeHost) :
    wp bridge.cleanup
      (fun _ h => h.seen .managed = bridge.originalManaged.map some ∧
        (bridge.includeAdded = false → h.seen .main = host.seen .main) ∧
        (bridge.includeAdded = true → ∃ text : String, host.seen .main = some (some text.toUTF8) ∧
          h.seen .main = some (some (withoutInclude bridge.paths text).toUTF8)))
      (fun _ _ => Clear host → ∀ text : String, host.seen .main ≠ some (some text.toUTF8)) host := by
  rw [cleanup, wp_bind, wp_attempt]
  refine wp_mono (bridge.wp_restore host) (fun _ h hrestored => hrestored) ?_
  intro error h hreason
  simp only [wp_bind, wp_throw]
  exact wp_mono wp_true (fun _ _ _ => hreason) fun _ _ _ => hreason

end InstalledWaydroidBridge

/-- Removing the bridge from a main configuration without the line leaves that file alone. -/
theorem removeBridge_keeps {paths : WaydroidBridgePaths} {text : String}
    (htext : withoutInclude paths text = text) {host : BridgeHost}
    (hmain : host.seen .main = some (some text.toUTF8)) :
    (after (removeBridge paths) host).seen .main = some (some text.toUTF8) := by
  refine wp_after (P := fun h : BridgeHost => h.seen .main = some (some text.toUTF8)) ?_
  rw [removeBridge, wp_bind]
  refine wp_mono (wp_removeManagedInclude paths host) ?_ ?_
  · rintro _ h₁ ⟨-, -, text', hseen, hmain₁⟩
    rw [hmain, Option.some.injEq, Option.some.injEq] at hseen
    obtain rfl := String.toByteArray_inj.mp hseen
    rw [htext] at hmain₁
    refine wp_mono (wp_removeFileIfExists h₁ .managed) (fun _ h₂ hbecame => ?_) fun _ h₂ hfail => ?_
    · have hne : ConfigFile.main ≠ .managed := by decide
      rw [← hmain₁]
      exact seen_congr (by rw [hbecame.configs, Function.update_of_ne hne])
    · rw [← hmain₁]
      exact seen_congr (congrFun hfail.1 _)
  · rintro error h ⟨hconfigs, -⟩
    rw [← hmain]
    exact seen_congr (congrFun hconfigs _)

/-! ### On a host -/

/-- A host with these two files. -/
def hostWith (main : String) (managed : Option String) (fault : ℕ → Option Fault) : BridgeHost where
  node
    | .config .main => some (.file main.toUTF8 0o644)
    | .config .managed => managed.map fun text => .file text.toUTF8 0o600
    | .temporary _ => none
  fault := fault
  calls := 0
  newFileMode := 0o644
  utf8Error _ := "invalid utf-8 sequence of 1 bytes from index 0"

def touchscreen : InputDeviceNode := ⟨"/dev/input/event29".toUTF8⟩

theorem clear_hostWith (main : String) (managed : Option String) :
    Clear (hostWith main managed fun _ => none) := by
  refine ⟨fun _ _ => rfl, fun path => ?_⟩
  cases path with
  | temporary file => exact nofun
  | config file =>
    cases file with
    | main => exact nofun
    | managed => cases managed <;> exact nofun

theorem exists_renderBridgeConfig_touchscreen :
    ∃ managed, renderBridgeConfig touchscreen .v2 = .ok managed := by
  have hpath : String.fromUTF8? touchscreen.path = some "/dev/input/event29" :=
    fromUTF8?_eq_some.mpr rfl
  have hplain : "/dev/input/event29".toList.any (fun c => c == '\n' || c == '\r') = false := by
    decide
  rw [renderBridgeConfig, hpath]
  simp only [hplain]
  exact ⟨_, rfl⟩

/-! ### The results -/

/-- The main configuration has the line already, or it ends with one newline and all its line
breaks are plain newlines. -/
def Restorable (paths : WaydroidBridgePaths) (text : String) : Prop :=
  (∃ line ∈ lines text.toList, Includes (includeLine paths) line) ∨
    EndsOnce text.toList ∧ PlainBreaks text.toList

/-- Removing the line after adding it. -/
theorem withoutInclude_addInclude {paths : WaydroidBridgePaths} {text : String}
    (h : ∀ line ∈ lines text.toList, ¬ Includes (includeLine paths) line) :
    withoutInclude paths (String.ofList (addInclude text.toList (includeLine paths))) = text ↔
      EndsOnce text.toList ∧ PlainBreaks text.toList := by
  rw [← removeInclude_addInclude h, withoutInclude, String.toList_ofList, ← String.toList_inj,
    String.toList_ofList]

/-- The line is added exactly to a main configuration without it. -/
theorem ofList_addInclude_ne_iff {paths : WaydroidBridgePaths} {text : String} :
    String.ofList (addInclude text.toList (includeLine paths)) ≠ text ↔
      ∀ line ∈ lines text.toList, ¬ Includes (includeLine paths) line := by
  constructor
  · intro hne line hmem hline
    rw [addInclude_of_mem hmem hline, String.ofList_toList] at hne
    exact hne rfl
  · intro h heq
    obtain ⟨line, hmem, hline⟩ := @exists_includes_addInclude paths text.toList
    have heq := congrArg String.toList heq
    rw [String.toList_ofList] at heq
    rw [heq] at hmem
    exact h line hmem hline

/-- The round trip, for an installation and a cleanup that succeed. -/
theorem restores_iff {paths : WaydroidBridgePaths} {node : InputDeviceNode}
    {cgroupMode : CgroupMode} {host installed cleaned : BridgeHost}
    {bridge : InstalledWaydroidBridge} {text : String}
    (hmain : host.seen .main = some (some text.toUTF8))
    (hinstall : install paths node cgroupMode host = .ok bridge installed)
    (hcleanup : bridge.cleanup installed = .ok () cleaned) :
    (∀ file, cleaned.seen file = host.seen file) ↔ Restorable paths text := by
  obtain ⟨hpaths, hmanaged, -, text', hmain', hadded, hmain₁⟩ :=
    wp_ok (wp_install paths node cgroupMode host) hinstall
  obtain ⟨hmanaged₂, hsame, hremoved⟩ := wp_ok (bridge.wp_cleanup installed) hcleanup
  rw [hmain, Option.some.injEq, Option.some.injEq] at hmain'
  obtain rfl := String.toByteArray_inj.mp hmain'
  rw [hpaths] at hremoved
  have hfiles : (∀ file, cleaned.seen file = host.seen file) ↔
      cleaned.seen .main = host.seen .main := by
    refine ⟨fun h => h .main, fun h file => ?_⟩
    cases file with
    | main => exact h
    | managed => rw [hmanaged₂, hmanaged]
  rw [hfiles]
  cases hbridge : bridge.includeAdded with
  | false =>
    -- the line was there before
    have heq : String.ofList (addInclude text.toList (includeLine paths)) = text := by
      by_contra hne
      rw [hadded.mpr hne] at hbridge
      cases hbridge
    rw [heq, ← hmain] at hmain₁
    rw [hsame hbridge, hmain₁]
    have hmem := not_forall.mp (fun h => ofList_addInclude_ne_iff.mpr h heq)
    obtain ⟨line, hline⟩ := hmem
    exact iff_of_true rfl (Or.inl ⟨line, (Classical.not_imp.mp hline).1,
      not_not.mp (Classical.not_imp.mp hline).2⟩)
  | true =>
    have hnone := ofList_addInclude_ne_iff.mp (hadded.mp hbridge)
    obtain ⟨updated, hupdated, hcleaned⟩ := hremoved hbridge
    rw [hmain₁, Option.some.injEq, Option.some.injEq] at hupdated
    obtain rfl := String.toByteArray_inj.mp hupdated
    rw [hcleaned, hmain, Option.some.injEq, Option.some.injEq, String.toUTF8_eq_toByteArray,
      String.toUTF8_eq_toByteArray, String.toByteArray_inj, withoutInclude_addInclude hnone]
    constructor
    · exact Or.inr
    · rintro (⟨line, hmem, hline⟩ | h)
      · exact absurd hline (hnone line hmem)
      · exact h

/-- With nothing in the way the installation succeeds, and leaves nothing in the way. -/
theorem exists_install (paths : WaydroidBridgePaths) {node : InputDeviceNode}
    {cgroupMode : CgroupMode} {host : BridgeHost} {text : String} (hclear : Clear host)
    (hmain : host.seen .main = some (some text.toUTF8))
    (hnode : ∃ managed, renderBridgeConfig node cgroupMode = .ok managed) :
    ∃ bridge installed, install paths node cgroupMode host = .ok bridge installed ∧
      Clear installed ∧ ∃ updated : String, installed.seen .main = some (some updated.toUTF8) := by
  have hinstalls := wp_install paths node cgroupMode host
  cases hinstall : install paths node cgroupMode host with
  | error error failed =>
    obtain ⟨managed, hmanaged⟩ := hnode
    obtain ⟨error, herror⟩ := (wp_error hinstalls hinstall).2 hclear text hmain
    rw [hmanaged] at herror
    cases herror
  | ok bridge installed =>
    obtain ⟨-, -, hclear₁, text', -, -, hmain₁⟩ := wp_ok hinstalls hinstall
    exact ⟨bridge, installed, rfl, hclear₁ hclear, _, hmain₁⟩

/-- So does the cleanup. -/
theorem exists_cleanup (bridge : InstalledWaydroidBridge) {host : BridgeHost} {text : String}
    (hclear : Clear host) (hmain : host.seen .main = some (some text.toUTF8)) :
    ∃ cleaned, bridge.cleanup host = .ok () cleaned := by
  cases hcleanup : bridge.cleanup host with
  | error error failed =>
    exact absurd hmain (wp_error (bridge.wp_cleanup host) hcleanup hclear text)
  | ok u cleaned => exact ⟨cleaned, rfl⟩

/-- **Installing the bridge and cleaning up restores both files exactly if the main configuration
has the line already, or ends with one newline and has plain line breaks.**  With nothing in the
way both succeed. -/
theorem install_cleanup_restores_iff {paths : WaydroidBridgePaths} {node : InputDeviceNode}
    {cgroupMode : CgroupMode} {host : BridgeHost} {text : String}
    (hmain : host.seen .main = some (some text.toUTF8)) :
    (∀ bridge installed cleaned, install paths node cgroupMode host = .ok bridge installed →
      bridge.cleanup installed = .ok () cleaned →
      ((∀ file, cleaned.seen file = host.seen file) ↔ Restorable paths text)) ∧
    (Clear host → (∃ managed, renderBridgeConfig node cgroupMode = .ok managed) →
      ∃ bridge installed cleaned, install paths node cgroupMode host = .ok bridge installed ∧
        bridge.cleanup installed = .ok () cleaned) := by
  refine ⟨fun _ _ _ => restores_iff hmain, fun hclear hnode => ?_⟩
  obtain ⟨bridge, installed, hinstall, hclear₁, updated, hmain₁⟩ :=
    exists_install paths hclear hmain hnode
  obtain ⟨cleaned, hcleanup⟩ := exists_cleanup bridge hclear₁ hmain₁
  exact ⟨bridge, installed, cleaned, hinstall, hcleanup⟩

theorem install_cleanup_restores_rootfs :
    ∃ bridge installed cleaned,
      install default touchscreen .v2 (hostWith "lxc.rootfs.path = /rootfs\n" none fun _ => none) =
        .ok bridge installed ∧
      bridge.cleanup installed = .ok () cleaned ∧
      ∀ file, cleaned.seen file =
        (hostWith "lxc.rootfs.path = /rootfs\n" none fun _ => none).seen file := by
  obtain ⟨hiff, hruns⟩ := @install_cleanup_restores_iff default touchscreen .v2
    (hostWith "lxc.rootfs.path = /rootfs\n" none fun _ => none) "lxc.rootfs.path = /rootfs\n" rfl
  obtain ⟨bridge, installed, cleaned, hinstall, hcleanup⟩ :=
    hruns (clear_hostWith _ _) exists_renderBridgeConfig_touchscreen
  refine ⟨bridge, installed, cleaned, hinstall, hcleanup, ?_⟩
  refine (hiff bridge installed cleaned hinstall hcleanup).mpr (Or.inr ⟨?_, by decide⟩)
  exact ⟨"lxc.rootfs.path = /rootfs".toList, by decide, by decide⟩

/-- A configuration whose last line has no newline gets one. -/
theorem not_restores_unterminated :
    ¬ ∀ (paths : WaydroidBridgePaths) (node : InputDeviceNode) (cgroupMode : CgroupMode)
        (host installed cleaned : BridgeHost) (bridge : InstalledWaydroidBridge) (text : String),
      Clear host → host.seen .main = some (some text.toUTF8) →
      install paths node cgroupMode host = .ok bridge installed →
      bridge.cleanup installed = .ok () cleaned → ∀ file, cleaned.seen file = host.seen file := by
  intro hall
  let host := hostWith "lxc.rootfs.path = /rootfs" none fun _ => none
  have hclear : Clear host := clear_hostWith _ _
  have hmain : host.seen .main = some (some "lxc.rootfs.path = /rootfs".toUTF8) := rfl
  obtain ⟨bridge, installed, hinstall, hclear₁, updated, hmain₁⟩ :=
    exists_install default hclear hmain exists_renderBridgeConfig_touchscreen
  obtain ⟨cleaned, hcleanup⟩ := exists_cleanup bridge hclear₁ hmain₁
  have hsame := hall _ _ _ _ _ _ _ _ hclear hmain hinstall hcleanup
  rcases (restores_iff hmain hinstall hcleanup).mp hsame with hline | ⟨⟨init, hinit, -⟩, -⟩
  · exact absurd hline (by decide +kernel)
  · have hlast := congrArg List.getLast? hinit
    rw [List.getLast?_concat] at hlast
    exact absurd hlast (by decide)

/-- The text of the lines other than the one of the bridge. -/
def otherLines (paths : WaydroidBridgePaths) (text : String) : String :=
  String.ofList
    (unlines ((lines text.toList).filter fun line => ¬ Includes (includeLine paths) line))

/-- Removing the line from a text with plain breaks leaves the other lines; doing it again changes
nothing. -/
theorem withoutInclude_otherLines {paths : WaydroidBridgePaths} {text : String}
    (hend : text.toList.getLast? = some '\n') (hplain : PlainBreaks text.toList)
    (hother : ∃ line ∈ lines text.toList, ¬ Includes (includeLine paths) line) :
    withoutInclude paths text = otherLines paths text ∧
      withoutInclude paths (otherLines paths text) = otherLines paths text := by
  have hunbroken : ∀ l ∈ lines text.toList, Unbroken l := fun l => unbroken_of_mem_lines
  have htext := unlines_lines hend hplain
  have hstrip := (plainBreaks_unlines_iff hunbroken).mp (htext.symm ▸ hplain)
  constructor
  · have hremove := removeInclude_unlines_of_plain hunbroken (htext.symm ▸ hplain) hother
    rw [htext] at hremove
    rw [withoutInclude, hremove, otherLines]
  · obtain ⟨line, hmem, hline⟩ := hother
    let kept := (lines text.toList).filter fun line => ¬ Includes (includeLine paths) line
    have hkept : ∀ l ∈ kept, l ∈ lines text.toList ∧ ¬ Includes (includeLine paths) l := by
      intro l hl
      obtain ⟨hl, hother⟩ := List.mem_filter.mp hl
      exact ⟨hl, of_decide_eq_true hother⟩
    have hkeptUnbroken : ∀ l ∈ kept, Unbroken l := fun l hl => hunbroken l (hkept l hl).1
    have hkeptPlain : PlainBreaks (unlines kept) :=
      (plainBreaks_unlines_iff hkeptUnbroken).mpr fun l hl => hstrip l (hkept l hl).1
    have hsame : kept.filter (fun line => ¬ Includes (includeLine paths) line) = kept :=
      List.filter_eq_self.mpr fun l hl => decide_eq_true (hkept l hl).2
    have hremove := removeInclude_unlines_of_plain hkeptUnbroken hkeptPlain
      ⟨line, List.mem_filter.mpr ⟨hmem, decide_eq_true hline⟩, hline⟩
    rw [hsame] at hremove
    rw [withoutInclude, otherLines, String.toList_ofList, hremove]

/-- **The cleanup keeps the edits of others**: it takes the line out of the text it finds and leaves
the other lines as they are, and removing the bridge any number of times afterwards does not change
the file any more. -/
theorem cleanup_keeps_edits {paths : WaydroidBridgePaths} {node : InputDeviceNode}
    {cgroupMode : CgroupMode} {host installed found cleaned : BridgeHost}
    {bridge : InstalledWaydroidBridge} {original edited : String}
    (hmain : host.seen .main = some (some original.toUTF8))
    (hnot : ∀ line ∈ lines original.toList, ¬ Includes (includeLine paths) line)
    (hinstall : install paths node cgroupMode host = .ok bridge installed)
    (hedited : found.seen .main = some (some edited.toUTF8))
    (hend : edited.toList.getLast? = some '\n') (hplain : PlainBreaks edited.toList)
    (hother : ∃ line ∈ lines edited.toList, ¬ Includes (includeLine paths) line)
    (hcleanup : bridge.cleanup found = .ok () cleaned) :
    cleaned.seen .main = some (some (otherLines paths edited).toUTF8) ∧
      ∀ n, ((after (removeBridge paths))^[n] cleaned).seen .main =
        some (some (otherLines paths edited).toUTF8) := by
  obtain ⟨hpaths, -, -, text, hmain', hadded, -⟩ :=
    wp_ok (wp_install paths node cgroupMode host) hinstall
  rw [hmain, Option.some.injEq, Option.some.injEq] at hmain'
  obtain rfl := String.toByteArray_inj.mp hmain'
  have hbridge := hadded.mpr (ofList_addInclude_ne_iff.mpr hnot)
  obtain ⟨-, -, hremoved⟩ := wp_ok (bridge.wp_cleanup found) hcleanup
  obtain ⟨text, htext, hcleaned⟩ := hremoved hbridge
  rw [hedited, Option.some.injEq, Option.some.injEq] at htext
  obtain rfl := String.toByteArray_inj.mp htext
  obtain ⟨hwithout, hstable⟩ := @withoutInclude_otherLines paths edited hend hplain hother
  rw [hpaths, hwithout] at hcleaned
  refine ⟨hcleaned, fun n => ?_⟩
  induction n with
  | zero => exact hcleaned
  | succ n ih =>
    rw [Function.iterate_succ_apply']
    exact removeBridge_keeps hstable ih

/-- The line has been moved up and doubled, and others have come and gone. -/
theorem cleanup_keeps_edits_moved :
    ∃ bridge installed cleaned,
      install default touchscreen .v2 (hostWith "a\nb\n" none fun _ => none) =
        .ok bridge installed ∧
      bridge.cleanup (hostWith ("\n " ++ String.ofList (includeLine default) ++ "\nc\n" ++
        String.ofList (includeLine default) ++ "\na\n") none fun _ => none) = .ok () cleaned ∧
      cleaned.seen .main = some (some "\nc\na\n".toUTF8) ∧
      ∀ n, ((after (removeBridge default))^[n] cleaned).seen .main =
        some (some "\nc\na\n".toUTF8) := by
  let edited := "\n " ++ String.ofList (includeLine default) ++ "\nc\n" ++
    String.ofList (includeLine default) ++ "\na\n"
  obtain ⟨bridge, installed, hinstall, -⟩ := @exists_install default touchscreen .v2
    (hostWith "a\nb\n" none fun _ => none) "a\nb\n" (clear_hostWith _ _) rfl
    exists_renderBridgeConfig_touchscreen
  obtain ⟨cleaned, hcleanup⟩ := @exists_cleanup bridge (hostWith edited none fun _ => none) edited
    (clear_hostWith _ _) rfl
  refine ⟨bridge, installed, cleaned, hinstall, hcleanup, ?_⟩
  have hkept : otherLines default edited = "\nc\na\n" := by decide +kernel
  rw [← hkept]
  exact @cleanup_keeps_edits _ _ _ _ _ _ _ _ "a\nb\n" _ rfl (by decide +kernel) hinstall rfl
    (by decide +kernel) (by decide +kernel) (by decide +kernel) hcleanup

/-- **An installation that fails leaves both files as they were**, whichever call failed, if it
succeeds in undoing the fragment when it comes to that. -/
theorem install_error_unchanged {paths : WaydroidBridgePaths} {node : InputDeviceNode}
    {cgroupMode : CgroupMode} {host failed : BridgeHost} {error : IoError}
    (hrollback : RollbackSucceeds paths node cgroupMode host)
    (hinstall : install paths node cgroupMode host = .error error failed) :
    ∀ file, failed.seen file = host.seen file :=
  (wp_error (wp_install paths node cgroupMode host) hinstall).1 hrollback

/-- The main configuration cannot be renamed to its place, and the old fragment comes back. -/
theorem install_error_unchanged_rename :
    ∃ error failed,
      install default touchscreen .v2 (hostWith "a\n" (some "old") fun n =>
        if n = 11 then some ⟨⟨.permissionDenied, "Permission denied"⟩, none, nofun⟩ else none) =
        .error error failed ∧
      failed.seen .main = some (some "a\n".toUTF8) ∧
      failed.seen .managed = some (some "old".toUTF8) := by
  let host := hostWith "a\n" (some "old") fun n =>
    if n = 11 then some ⟨⟨.permissionDenied, "Permission denied"⟩, none, nofun⟩ else none
  have hfails : returnsWith (fun _ => true) (install default touchscreen .v2) host = false := by
    decide +kernel
  cases hinstall : install default touchscreen .v2 host with
  | ok bridge installed =>
    rw [returnsWith, hinstall] at hfails
    cases hfails
  | error error failed =>
    have hunchanged := install_error_unchanged (by decide +kernel) hinstall
    exact ⟨error, failed, rfl, hunchanged .main, hunchanged .managed⟩

end WaydroidBridge

end Wroid
