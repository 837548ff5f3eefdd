import Wroid.Editor.ProfileSave
import Wroid.Lib.Faults

/-!
# One save of a profile, and the backup

`save_profile_with_backup` replaces two files, one after the other: the backup by the profile that
is there, then that profile by the new one.  Any step may fail.  When the second replacement fails
the first one has been made, and the profile that was in the backup before is gone.

## Main definitions

* `perform` — the steps of one request with given faults.
* `directories` — the two directories, by what is in their files.
* `SaveFails` — a step of a replacement fails.
* `Atomic` — both files are replaced, or none.
* `BackupLost` — the backup is replaced, and the profile is not.

## Main results

* `runWith_saveToPath` — a replacement is made unless a step of it fails.
* `save_atomic_iff` — **a save is atomic unless it loses the backup**.
-/

namespace Wroid.BackupSafety

open Lib

/-! ### Runs with faults -/

variable (faults : EditorOp → Option Fault) (pid : ℕ)

def mainFaults (op : FileOp SaveName) : Option Fault := faults (.main op)

def assetFaults (op : FileOp SaveName) : Option Fault := faults (.assets op)

/-- The step of the process `pid`. -/
def perform (files : EditorFiles) : (op : EditorOp) → op.Answer × EditorFiles
  | .main op =>
    let performed := op.perform (mainFaults faults) pid files.main
    (performed.1, { files with main := performed.2 })
  | .assets op =>
    let performed := op.perform (assetFaults faults) pid files.assets
    (performed.1, { files with assets := performed.2 })

variable {faults pid} {files : EditorFiles}

/-- The steps are those the process may take. -/
theorem exec_perform (op : EditorOp) : EditorOp.Exec pid files op
    (perform faults pid files op).1 (perform faults pid files op).2 := by
  cases op with
  | main op => exact ⟨Lib.exec_perform (mainFaults faults) pid files.main op, rfl⟩
  | assets op => exact ⟨Lib.exec_perform (assetFaults faults) pid files.assets op, rfl⟩

theorem runWith_inMain {α : Type} (program : FileProgram SaveName α) :
    (inMain program).runWith (perform faults pid) files =
      ((program.runWith (FileOp.perform (mainFaults faults) pid) files.main).1, { files with
        main := (program.runWith (FileOp.perform (mainFaults faults) pid) files.main).2 }) :=
  Program.runWith_embed EditorFiles.main (fun main files => { files with main := main })
    (fun _ _ => rfl) (fun _ _ _ => rfl) (fun _ => rfl) (fun _ _ => ⟨rfl, rfl⟩) program files

theorem runWith_inAssets {α : Type} (program : FileProgram SaveName α) :
    (inAssets program).runWith (perform faults pid) files =
      ((program.runWith (FileOp.perform (assetFaults faults) pid) files.assets).1, { files with
        assets := (program.runWith (FileOp.perform (assetFaults faults) pid) files.assets).2 }) :=
  Program.runWith_embed EditorFiles.assets (fun assets files => { files with assets := assets })
    (fun _ _ => rfl) (fun _ _ _ => rfl) (fun _ => rfl) (fun _ _ => ⟨rfl, rfl⟩) program files

/-! ### One replacement -/

/-- The file and the temporary file next to it, in a directory of their own. -/
def directory (published temporary : Option (List UInt8)) : Files SaveName where
  entry
    | .published => published.map fun _ => 0
    | .temporary => temporary.map fun _ => 1
  data file := if file = 0 then published.getD [] else temporary.getD []
  next := 2
  holder _ := none
  stagers _ := ∅

section Directory

variable {published temporary : Option (List UInt8)}

theorem bounded_directory (name : SaveName) (file : ℕ)
    (h : (directory published temporary).entry name = some file) :
    file < (directory published temporary).next := by
  cases name with
  | published =>
    obtain ⟨_, -, rfl⟩ := Option.map_eq_some_iff.mp h
    exact Nat.zero_lt_two
  | temporary =>
    obtain ⟨_, -, rfl⟩ := Option.map_eq_some_iff.mp h
    exact Nat.one_lt_two

theorem sole_directory : (directory published temporary).Sole .temporary := by
  intro file hfile name hname
  obtain ⟨_, -, rfl⟩ := Option.map_eq_some_iff.mp hfile
  cases name with
  | temporary => rfl
  | published =>
    obtain ⟨_, -, hzero⟩ := Option.map_eq_some_iff.mp hname
    exact absurd hzero Nat.zero_ne_one

@[simp] theorem content_directory : (directory published temporary).content .published = published := by
  cases published <;> rfl

end Directory

variable {codec : ProfileCodec} {document : ProfileDocument}

/-- A step of the replacement fails: creating the temporary file, writing or renaming it. -/
def SaveFails (faults : FileOp SaveName → Option Fault) (codec : ProfileCodec)
    (document : ProfileDocument) (s : Files SaveName) : Prop :=
  faults (.create .temporary) ≠ none ∨
    faults (.write (s.fileOf .temporary) (codec.text document)) ≠ none ∨
    faults (.rename .temporary .published) ≠ none

section Save

variable {faults : FileOp SaveName → Option Fault} {s : Files SaveName}

/-- Removing the temporary file, or not, leaves the other one alone. -/
theorem content_perform_remove : ((FileOp.remove SaveName.temporary).perform faults pid s).2.content
    .published = s.content .published := by
  cases hremove : faults (.remove .temporary) with
  | some fault => rw [perform_of_some hremove, FileOp.fail, Files.content_leave]
  | none =>
    rw [perform_of_none hremove, FileOp.succeed]
    split
    · rw [Files.content_leave]
    · rw [Files.content_leave, Files.content_remove (by decide)]

/-- **A replacement is made unless a step of it fails.** -/
theorem runWith_saveToPath (hb : ∀ name file, s.entry name = some file → file < s.next)
    (hsole : s.Sole .temporary) (hvalid : document.validate = .ok ()) :
    (SaveFails faults codec document s → ∃ error s',
      (document.saveToPath codec .temporary .published).runWith (FileOp.perform faults pid) s =
        (.error error, s') ∧ s'.content .published = s.content .published) ∧
    (¬ SaveFails faults codec document s → ∃ s',
      (document.saveToPath codec .temporary .published).runWith (FileOp.perform faults pid) s =
        (.ok (), s') ∧ s'.content .published = some (codec.text document)) := by
  have hne : SaveName.published ≠ .temporary := by decide
  have hcreated := Files.content_create pid hb hsole hne
  have hprepared : ∀ bytes, (s.prepared pid .temporary bytes).content .published =
    s.content .published := fun bytes => Files.content_prepared hb hsole hne
  rw [ProfileDocument.saveToPath, hvalid]
  simp only [FileOp.call, Program.call_bind, Program.runWith_perform]
  cases hcreate : faults (.create .temporary) with
  | some fault =>
    rw [perform_of_some hcreate]
    have hfails : SaveFails faults codec document s := .inl (by simp [hcreate])
    exact ⟨fun _ => ⟨_, _, rfl, rfl⟩, fun h => absurd hfails h⟩
  | none =>
  rw [perform_of_none hcreate]
  simp only [FileOp.succeed, Program.runWith_perform]
  cases hwrite : faults (.write (s.fileOf .temporary) (codec.text document)) with
  | some fault =>
    rw [perform_of_some hwrite]
    have hfails : SaveFails faults codec document s := .inr (.inl (by simp [hwrite]))
    exact ⟨fun _ => ⟨_, _, rfl, hprepared _⟩, fun h => absurd hfails h⟩
  | none =>
  rw [perform_of_none hwrite]
  simp only [FileOp.succeed, Program.runWith_perform]
  cases hrename : faults (.rename .temporary .published) with
  | some fault =>
    rw [perform_of_some hrename]
    have hfails : SaveFails faults codec document s := .inr (.inr (by simp [hrename]))
    refine ⟨fun _ => ⟨_, _, rfl, ?_⟩, fun h => absurd hfails h⟩
    exact content_perform_remove.trans (hprepared _)
  | none =>
    have hthere : ((s.create pid .temporary).store (s.fileOf .temporary)
        (codec.text document)).entry .temporary ≠ none :=
      Files.entry_prepared s pid .temporary (codec.text document)
    rw [perform_of_none hrename, FileOp.succeed, if_neg hthere]
    have hworks : ¬ SaveFails faults codec document s := by
      rintro (h | h | h)
      · exact h hcreate
      · exact h hwrite
      · exact h hrename
    refine ⟨fun h => absurd h hworks, fun _ => ⟨_, rfl, ?_⟩⟩
    exact Files.content_published hb hsole hne

end Save

/-! ### The save -/

/-- The directories, by what is in their files. -/
def directories (profile backup leftover backupLeftover : Option (List UInt8)) :
    EditorFiles :=
  ⟨directory profile leftover, directory backup backupLeftover⟩

/-- What the two files hold. -/
def contents (files : EditorFiles) : Option (List UInt8) × Option (List UInt8) :=
  (files.main.content .published, files.assets.content .published)

/-- The profile that is there. -/
def Current (codec : ProfileCodec) (files : EditorFiles) (current : ProfileDocument) : Prop :=
  ∃ bytes, files.main.content .published = some bytes ∧ codec.fromBytes bytes = .ok current

/-- A save ends in one of three ways, and each says what the files hold. -/
structure Atomic (faults : EditorOp → Option Fault) (codec : ProfileCodec)
    (document : ProfileDocument) (files : EditorFiles)
    (outcome : Except String Bool × EditorFiles) : Prop where
  failed : ∀ error, outcome.1 = .error error → contents outcome.2 = contents files
  saved : outcome.1 = .ok true → ∃ current, Current codec files current ∧ current ≠ document ∧
    contents outcome.2 = (some (codec.text document), some (codec.text current))
  unchanged : outcome.1 = .ok false →
    Current codec files document ∧ contents outcome.2 = contents files
  equal : mainFaults faults (.read .published) = none → Current codec files document →
    outcome.1 = .ok false

/-- The backup is replaced by the profile that is there, and the profile is not replaced. -/
structure BackupLost (faults : EditorOp → Option Fault) (codec : ProfileCodec)
    (document : ProfileDocument) (files : EditorFiles) : Prop where
  read : mainFaults faults (.read .published) = none
  differs : ∃ current, Current codec files current ∧ current.validate = .ok () ∧
    current ≠ document ∧ ¬ SaveFails (assetFaults faults) codec current files.assets ∧
    files.assets.content .published ≠ some (codec.text current)
  directory : assetFaults faults .createDirectory = none
  fails : SaveFails (mainFaults faults) codec document files.main

theorem Current.unique {current current' : ProfileDocument} (h : Current codec files current)
    (h' : Current codec files current') : current = current' := by
  obtain ⟨bytes, hcontent, hload⟩ := h
  obtain ⟨bytes', hcontent', hload'⟩ := h'
  rw [hcontent, Option.some.injEq] at hcontent'
  rw [← hcontent', hload, Except.ok.injEq] at hload'
  exact hload'

section Outcome

variable {faults : EditorOp → Option Fault} {path assets backup : String}

/-- An error that leaves the files alone, when the new profile is not the one that is there. -/
theorem atomic_of_error {outcome : Except String Bool × EditorFiles} {error : String}
    (herror : outcome.1 = .error error) (hcontents : contents outcome.2 = contents files)
    (hne : mainFaults faults (.read .published) = none → ¬ Current codec files document) :
    Atomic faults codec document files outcome := by
  refine ⟨fun _ _ => hcontents, fun h => ?_, fun h => ?_, fun hread hcurrent => ?_⟩
  · rw [herror] at h
    contradiction
  · rw [herror] at h
    contradiction
  · exact absurd hcurrent (hne hread)

/-- The two directories: every name has a file to itself. -/
structure Separate (files : EditorFiles) : Prop where
  main : ∀ name file, files.main.entry name = some file → file < files.main.next
  assets : ∀ name file, files.assets.entry name = some file → file < files.assets.next
  mainSole : files.main.Sole .temporary
  assetsSole : files.assets.Sole .temporary

/-- A save that has read another profile than the new one. -/
theorem save_atomic_of_differs (h : Separate files) (hvalid : document.validate = .ok ())
    {current : ProfileDocument} (hread : mainFaults faults (.read .published) = none)
    (hcurrent : Current codec files current) (hold : current.validate = .ok ())
    (hne : current ≠ document) :
    Atomic faults codec document files ((saveProfileWithBackup codec path assets backup
      document).runWith (perform faults pid) files) ↔ ¬ BackupLost faults codec document files := by
  have hnot : mainFaults faults (.read .published) = none → ¬ Current codec files document :=
    fun _ h => hne (hcurrent.unique h)
  obtain ⟨bytes, hcontent, hload⟩ := id hcurrent
  unfold saveProfileWithBackup
  simp only [Program.runWith_bind, runWith_inMain, loadFromPath, FileOp.call, Program.runWith_call,
    perform_of_none hread, FileOp.succeed, hcontent, codec.load_ok_iff.mpr hload]
  simp only [Program.pure_eq_done, Program.runWith_done, hold, if_neg hne, Program.runWith_bind,
    runWith_inAssets, Program.runWith_call]
  cases hdirectory : assetFaults faults .createDirectory with
  | some fault =>
    rw [perform_of_some hdirectory]
    refine iff_of_true (atomic_of_error rfl rfl hnot) fun hlost => ?_
    rw [hlost.directory] at hdirectory
    contradiction
  | none =>
  rw [perform_of_none hdirectory]
  simp only [FileOp.succeed, Program.runWith_bind, runWith_inAssets]
  obtain ⟨hlose, hretain⟩ := @runWith_saveToPath pid codec current (assetFaults faults)
    files.assets h.assets h.assetsSole hold
  by_cases hassets : SaveFails (assetFaults faults) codec current files.assets
  · obtain ⟨error, assets', hrun, hkept⟩ := hlose hassets
    rw [hrun]
    refine iff_of_true (atomic_of_error rfl (Prod.ext rfl hkept) hnot) fun hlost => ?_
    obtain ⟨current', hcurrent', -, -, hworks, -⟩ := hlost.differs
    rw [hcurrent'.unique hcurrent] at hworks
    exact hworks hassets
  obtain ⟨assets', hrun, hretained⟩ := hretain hassets
  rw [hrun]
  simp only [Program.runWith_bind, runWith_inMain]
  obtain ⟨hlose, hsave⟩ := @runWith_saveToPath pid codec document (mainFaults faults) files.main
    h.main h.mainSole hvalid
  by_cases hmain : SaveFails (mainFaults faults) codec document files.main
  · -- the backup has been replaced, and the profile is not
    obtain ⟨error, main', hrun, hkept⟩ := hlose hmain
    rw [hrun]
    constructor
    · intro hatomic hlost
      obtain ⟨current', hcurrent', -, -, -, hother⟩ := hlost.differs
      rw [hcurrent'.unique hcurrent] at hother
      have hcontents := hatomic.failed _ rfl
      exact hother ((Prod.ext_iff.mp hcontents).2.symm.trans hretained)
    · intro hnotLost
      have hsame : files.assets.content .published = some (codec.text current) := by
        by_contra hother
        exact hnotLost ⟨hread, ⟨current, hcurrent, hold, hne, hassets, hother⟩, hdirectory, hmain⟩
      exact atomic_of_error rfl (Prod.ext hkept (hretained.trans hsame.symm)) hnot
  · obtain ⟨main', hrun, hsaved⟩ := hsave hmain
    rw [hrun]
    refine iff_of_true ⟨fun _ herror => ?_, fun _ => ?_, fun hfalse => ?_, fun _ hequal => ?_⟩
      fun hlost => hmain hlost.fails
    · contradiction
    · exact ⟨current, hcurrent, hne, Prod.ext hsaved hretained⟩
    · exact absurd (Except.ok.inj hfalse) (by decide)
    · exact absurd hequal (hnot hread)

/-- A save that cannot read a profile worth keeping. -/
theorem save_atomic_of_unreadable (hunreadable : mainFaults faults (.read .published) = none →
      ∀ current, Current codec files current → current.validate ≠ .ok ())
    (hvalid : document.validate = .ok ()) :
    Atomic faults codec document files ((saveProfileWithBackup codec path assets backup
      document).runWith (perform faults pid) files) := by
  have hnot : mainFaults faults (.read .published) = none → ¬ Current codec files document :=
    fun hread hcurrent => hunreadable hread document hcurrent hvalid
  unfold saveProfileWithBackup
  simp only [Program.runWith_bind, runWith_inMain, loadFromPath, FileOp.call, Program.runWith_call]
  cases hread : mainFaults faults (.read .published) with
  | some fault =>
    rw [perform_of_some hread]
    exact atomic_of_error rfl rfl hnot
  | none =>
  rw [perform_of_none hread]
  cases hcontent : files.main.content .published with
  | none =>
    simp only [FileOp.succeed, hcontent]
    exact atomic_of_error rfl rfl hnot
  | some bytes =>
  simp only [FileOp.succeed, hcontent]
  cases hload : codec.load (.ok bytes) with
  | error error => exact atomic_of_error rfl rfl hnot
  | ok current =>
  simp only [Program.pure_eq_done, Program.runWith_done]
  cases hold : current.validate with
  | error errors => exact atomic_of_error rfl rfl hnot
  | ok _ =>
    exact absurd hold (hunreadable hread current ⟨bytes, hcontent, codec.load_ok_iff.mp hload⟩)

/-- A save that has read the new profile. -/
theorem save_atomic_of_equal (hread : mainFaults faults (.read .published) = none)
    (hcurrent : Current codec files document) (hvalid : document.validate = .ok ()) :
    Atomic faults codec document files ((saveProfileWithBackup codec path assets backup
      document).runWith (perform faults pid) files) := by
  obtain ⟨bytes, hcontent, hload⟩ := id hcurrent
  unfold saveProfileWithBackup
  simp only [Program.runWith_bind, runWith_inMain, loadFromPath, FileOp.call, Program.runWith_call,
    perform_of_none hread, FileOp.succeed, hcontent, codec.load_ok_iff.mpr hload]
  simp only [Program.pure_eq_done, Program.runWith_done, hvalid, if_true]
  refine ⟨fun _ herror => ?_, fun htrue => ?_, fun _ => ⟨hcurrent, rfl⟩, fun _ _ => rfl⟩
  · contradiction
  · exact absurd (Except.ok.inj htrue) (by decide)

/-- **A save is atomic unless it loses the backup**: for every profile and backup that may be
there, every new profile that is valid, and every step that fails. -/
theorem save_atomic_iff (hvalid : document.validate = .ok ())
    (profile backup leftover backupLeftover : Option (List UInt8)) (assets backupPath : String) :
    Atomic faults codec document (directories profile backup leftover backupLeftover)
      ((saveProfileWithBackup codec path assets backupPath document).runWith (perform faults pid)
        (directories profile backup leftover backupLeftover)) ↔
      ¬ BackupLost faults codec document (directories profile backup leftover backupLeftover) := by
  generalize hfiles : directories profile backup leftover backupLeftover = files
  have hseparate : Separate files := by
    rw [← hfiles]
    exact ⟨bounded_directory, bounded_directory, sole_directory, sole_directory⟩
  by_cases hreadable : mainFaults faults (.read .published) = none ∧
      ∃ current, Current codec files current ∧ current.validate = .ok ()
  · obtain ⟨hread, current, hcurrent, hold⟩ := hreadable
    by_cases hne : current = document
    · rw [hne] at hcurrent
      refine iff_of_true (save_atomic_of_equal hread hcurrent hvalid) fun hlost => ?_
      obtain ⟨current', hcurrent', -, hne', -⟩ := hlost.differs
      exact hne' (hcurrent'.unique hcurrent)
    · exact save_atomic_of_differs hseparate hvalid hread hcurrent hold hne
  · refine iff_of_true (save_atomic_of_unreadable ?_ hvalid) fun hlost => ?_
    · exact fun hread current hcurrent hold => hreadable ⟨hread, current, hcurrent, hold⟩
    · obtain ⟨current, hcurrent, hold, -⟩ := hlost.differs
      exact hreadable ⟨hlost.read, current, hcurrent, hold⟩

end Outcome

/-! ### A save that fails at its last step -/

def sampleCodec : ProfileCodec := .bare [bareDocument "PUBG Mobile", bareDocument "Scrims"]

/-- The profile that is there, and an older one in the backup. -/
def sampleFiles : EditorFiles :=
  directories (some (sampleCodec.text (bareDocument "PUBG Mobile")))
    (some (sampleCodec.text (bareDocument "Scrims"))) none none

theorem save_atomic_iff_faultless : Atomic (fun _ => none) sampleCodec (bareDocument "Ranked")
    sampleFiles ((saveProfileWithBackup sampleCodec "/games/pubg.json" "/games/.wroid-assets"
      "/games/.wroid-assets/pubg.json.previous.json" (bareDocument "Ranked")).runWith
        (perform (fun _ => none) 7) sampleFiles) := by
  refine (save_atomic_iff (by decide +kernel) _ _ _ _ _ _).mpr fun hlost => ?_
  rcases hlost.fails with h | h | h
  · exact h rfl
  · exact h rfl
  · exact h rfl

/-- The file system refuses the last renaming. -/
def renameFault : EditorOp → Option Fault
  | .main (.rename ..) => some ⟨"Input/output error (os error 5)", 0⟩
  | _ => none

/-- The save fails, and the older profile is gone. -/
theorem failed_save_loses_backup : (bareDocument "Ranked").validate = .ok () ∧
    ¬ Atomic renameFault sampleCodec (bareDocument "Ranked") sampleFiles
      ((saveProfileWithBackup sampleCodec "/games/pubg.json" "/games/.wroid-assets"
        "/games/.wroid-assets/pubg.json.previous.json" (bareDocument "Ranked")).runWith
          (perform renameFault 7) sampleFiles) := by
  refine ⟨by decide +kernel, fun h => ?_⟩
  have herror : ((saveProfileWithBackup sampleCodec "/games/pubg.json" "/games/.wroid-assets"
      "/games/.wroid-assets/pubg.json.previous.json" (bareDocument "Ranked")).runWith
        (perform renameFault 7) sampleFiles).1 =
          .error "failed to save profile /games/pubg.json" := by decide +kernel
  have hother : contents ((saveProfileWithBackup sampleCodec "/games/pubg.json"
      "/games/.wroid-assets" "/games/.wroid-assets/pubg.json.previous.json"
        (bareDocument "Ranked")).runWith (perform renameFault 7) sampleFiles).2 ≠
          contents sampleFiles := by decide +kernel
  exact hother (h.failed _ herror)

end Wroid.BackupSafety
