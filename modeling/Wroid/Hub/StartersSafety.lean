import Wroid.Hub.Starters
import Wroid.Lib.Faults

/-!
# Starters and the edits of the user

A start of the hub looks at each starter's file.  What it does with the file is decided by what
the file holds, and nothing it does there reaches the file of another starter.

## Main definitions

* `Tidy` — a directory in which temporary files are nobody else's files.
* `Bootstrap`, `bootstraps` — starts of the hub, each with faults of its own.
* `Holds` — a starter's file reads as a profile.
* `Settled` — no starter's file is an earlier release.

## Main results

* `runWith_saveToPath_frame` — a save under a temporary name reaches one profile only.
* `keeps_other_profiles` — a start leaves a profile alone that is no earlier release.
* `bootstrap_clean` — what a start without faults makes of each file.
* `edits_survive_iff` — **a starter's file keeps the user's profile over every number of starts
  iff the profile is not an earlier release; a start after a start changes nothing.**
-/

namespace Wroid.Starters

open Lib

/-! ### Saving next to other profiles -/

/-- Every name stands for a file that exists, and a temporary name for one with no other name. -/
structure Tidy (s : Files LibraryName) : Prop where
  bounded : ∀ name file, s.entry name = some file → file < s.next
  sole : ∀ name : LibraryName, name.Temporary → s.Sole name

/-- From one directory to another one, in which only this profile and temporary files differ. -/
structure Touches (path : LibraryName) (s s' : Files LibraryName) : Prop where
  tidy : Tidy s'
  content : ∀ name : LibraryName, ¬ name.Temporary → name ≠ path → s'.content name = s.content name

section Save

variable {codec : ProfileCodec} {document : ProfileDocument}
  {faults : FileOp LibraryName → Option Fault} {pid : ℕ} {s s' s'' : Files LibraryName}
  {temporary path : LibraryName}

theorem Touches.refl (hs : Tidy s) : Touches path s s := ⟨hs, fun _ _ _ => rfl⟩

theorem Touches.trans (h : Touches path s s') (h' : Touches path s' s'') : Touches path s s'' :=
  ⟨h'.tidy, fun name hname hne => (h'.content name hname hne).trans (h.content name hname hne)⟩

/-- What only the preparing processes know does not matter. -/
theorem Touches.forget (h : Touches path s s') (hentry : s''.entry = s'.entry)
    (hdata : s''.data = s'.data) (hnext : s''.next = s'.next) : Touches path s s'' := by
  refine ⟨⟨?_, ?_⟩, ?_⟩
  · intro name file hfile
    rw [hentry] at hfile
    rw [hnext]
    exact h.tidy.bounded name file hfile
  · intro name hname file hfile name' hname'
    rw [hentry] at hfile hname'
    exact h.tidy.sole name hname file hfile name' hname'
  · intro name hname hne
    rw [← h.content name hname hne, Files.content, Files.content, hentry, hdata]

theorem touches_create (hs : Tidy s) (htemporary : temporary.Temporary) :
    Touches path s (s.create pid temporary) where
  tidy :=
    { bounded := (Files.staged_create hs.bounded (hs.sole temporary htemporary) pid).bounded
      sole := fun name hname =>
        (hs.sole name hname).create hs.bounded pid (hs.sole temporary htemporary) }
  content := fun _ hname _ => Files.content_create pid hs.bounded (hs.sole temporary htemporary)
    (fun h => hname (h ▸ htemporary))

theorem touches_prepared (hs : Tidy s) (htemporary : temporary.Temporary) (bytes : List UInt8) :
    Touches path s (s.prepared pid temporary bytes) := by
  have hcreated : Touches path s (s.create pid temporary) := touches_create hs htemporary
  refine ⟨⟨hcreated.tidy.bounded, hcreated.tidy.sole⟩, ?_⟩
  intro name hname _
  have hne : name ≠ temporary := fun h => hname (h ▸ htemporary)
  exact Files.content_prepared hs.bounded (hs.sole temporary htemporary) hne

theorem touches_remove (hs : Tidy s) (htemporary : temporary.Temporary) :
    Touches path s (s.remove temporary) where
  tidy :=
    { bounded := by
        intro name file hfile
        by_cases hname : name = temporary
        · rw [hname, Files.entry_remove] at hfile
          cases hfile
        · have hentry : (s.remove temporary).entry name = s.entry name :=
            Function.update_of_ne hname _ _
          rw [hentry] at hfile
          exact hs.bounded name file hfile
      sole := fun name hname => (hs.sole name hname).remove temporary }
  content := fun name hname _ => Files.content_remove (fun h => hname (h ▸ htemporary))

theorem touches_published (hs : Tidy s) (htemporary : temporary.Temporary)
    (hpath : ¬ path.Temporary) (bytes : List UInt8) :
    Touches path s (s.published pid temporary bytes path) := by
  have hne : path ≠ temporary := fun h => hpath (h ▸ htemporary)
  have hprepared : Touches path s (s.prepared pid temporary bytes) :=
    touches_prepared hs htemporary bytes
  refine ⟨⟨(Files.bounded_published hs.bounded (hs.sole temporary htemporary) hne).1, ?_⟩, ?_⟩
  · intro name hname
    have hpaths : name ≠ path := fun h => hpath (h ▸ hname)
    exact (hprepared.tidy.sole name hname).rename hpaths
  · intro name hname hother
    have htemp : name ≠ temporary := fun h => hname (h ▸ htemporary)
    rw [Files.published, Files.content_leave, Files.content_rename htemp hother]
    exact hprepared.content name hname hother

/-- The temporary file is removed, or not. -/
theorem touches_perform_remove (hs : Tidy s) (htemporary : temporary.Temporary) :
    Touches path s ((FileOp.remove temporary).perform faults pid s).2 := by
  cases hremove : faults (.remove temporary) with
  | some fault =>
    rw [perform_of_some hremove]
    exact (Touches.refl hs).forget rfl rfl rfl
  | none =>
    rw [perform_of_none hremove, FileOp.succeed]
    by_cases hentry : s.entry temporary = none
    · rw [if_pos hentry]
      exact (Touches.refl hs).forget rfl rfl rfl
    · rw [if_neg hentry]
      exact (touches_remove hs htemporary).forget rfl rfl rfl

/-- **A save under a temporary name reaches one profile only**, whatever fails. -/
theorem runWith_saveToPath_frame (hs : Tidy s) (htemporary : temporary.Temporary)
    (hpath : ¬ path.Temporary) :
    Touches path s
      ((document.saveToPath codec temporary path).runWith (FileOp.perform faults pid) s).2 := by
  unfold ProfileDocument.saveToPath
  cases document.validate with
  | error errors => exact .refl hs
  | ok =>
  simp only [FileOp.call, Program.call_bind, Program.runWith_perform]
  cases hcreate : faults (.create temporary) with
  | some fault =>
    rw [perform_of_some hcreate]
    exact .refl hs
  | none =>
  rw [perform_of_none hcreate]
  simp only [FileOp.succeed, Program.runWith_perform]
  cases hwrite : faults (.write (s.fileOf temporary) (codec.text document)) with
  | some fault =>
    rw [perform_of_some hwrite]
    exact (touches_prepared hs htemporary _).forget rfl rfl rfl
  | none =>
  rw [perform_of_none hwrite]
  simp only [FileOp.succeed, Program.runWith_perform]
  have hprepared : Touches path s (s.prepared pid temporary (codec.text document)) :=
    touches_prepared hs htemporary _
  cases hrename : faults (.rename temporary path) with
  | some fault =>
    rw [perform_of_some hrename]
    exact hprepared.trans (touches_perform_remove hprepared.tidy htemporary)
  | none =>
    have hthere : ((s.create pid temporary).store (s.fileOf temporary)
        (codec.text document)).entry temporary ≠ none :=
      Files.entry_prepared s pid temporary (codec.text document)
    rw [perform_of_none hrename, FileOp.succeed, if_neg hthere]
    exact touches_published hs htemporary hpath (codec.text document)

/-- Without faults the profile is saved. -/
theorem runWith_saveToPath_clean (hs : Tidy s) (htemporary : temporary.Temporary)
    (hpath : ¬ path.Temporary) (hvalid : document.validate = .ok ()) :
    ∃ s', (document.saveToPath codec temporary path).runWith
        (FileOp.perform (fun _ => none) pid) s = (.ok (), s') ∧
      Touches path s s' ∧ s'.content path = some (codec.text document) := by
  have hne : path ≠ temporary := fun h => hpath (h ▸ htemporary)
  have hthere : ((s.create pid temporary).store (s.fileOf temporary)
      (codec.text document)).entry temporary ≠ none :=
    Files.entry_prepared s pid temporary (codec.text document)
  refine ⟨s.published pid temporary (codec.text document) path, ?_,
    touches_published hs htemporary hpath _,
    Files.content_published hs.bounded (hs.sole temporary htemporary) hne⟩
  rw [ProfileDocument.saveToPath, hvalid]
  simp only [FileOp.call, Program.call_bind, Program.runWith_perform, FileOp.perform,
    FileOp.succeed]
  rw [if_neg hthere]
  rfl

end Save

/-! ### One starter -/

/-- A start of the hub by a process of its own.  `Path::exists` sees the files that are there;
everything else may fail. -/
structure Bootstrap where
  hub : ℕ
  faults : FileOp LibraryName → Option Fault
  sees : ∀ name, faults (.present name) = none

section Starter

variable {codec : ProfileCodec} {directory : String} {start : Bootstrap} {starter : StarterProfile}
  {s : Files LibraryName}

/-- What is done with a program in this start. -/
def Bootstrap.run {α : Type} (start : Bootstrap) (program : FileProgram LibraryName α)
    (s : Files LibraryName) : α × Files LibraryName :=
  program.runWith (FileOp.perform start.faults start.hub) s

/-- The starter's file is not an earlier release. -/
def Settled (codec : ProfileCodec) (starter : StarterProfile) (s : Files LibraryName) : Prop :=
  ∃ bytes, s.content (.profile starter.id) = some bytes ∧
    ∀ installed, codec.fromBytes bytes = .ok installed →
      installed ∉ starterPredecessors starter.profile

theorem not_temporary (id : String) : ¬ (LibraryName.profile id).Temporary := fun h => h

/-- A step of a program, then the rest. -/
theorem run_bind {α β : Type} (program : FileProgram LibraryName α)
    (f : α → FileProgram LibraryName β) (s : Files LibraryName) :
    start.run (program >>= f) s = start.run (f (start.run program s).1) (start.run program s).2 :=
  Program.runWith_bind program f s

theorem run_call_bind {β : Type} (op : FileOp LibraryName)
    (f : op.Answer → FileProgram LibraryName β) :
    start.run (FileOp.call op >>= f) s =
      start.run (f (op.perform start.faults start.hub s).1) (op.perform start.faults start.hub s).2 :=
  rfl

@[simp] theorem run_return {α : Type} (a : α) (s : Files LibraryName) :
    start.run (return a) s = (a, s) := rfl

/-- A file that is there is upgraded or left alone; one that is not there is installed. -/
theorem run_bootstrapStarter : start.run (bootstrapStarter codec directory start.hub starter) s =
    if s.entry (.profile starter.id) ≠ none then
      start.run (upgradeUntouchedStarter codec directory start.hub starter) s
    else start.run (saveStarter codec directory start.hub "install" starter) s := by
  have hpresent : (FileOp.present (.profile starter.id)).perform start.faults start.hub s =
      (decide (s.entry (.profile starter.id) ≠ none), s) :=
    perform_of_none (start.sees _)
  unfold bootstrapStarter
  rw [run_call_bind, hpresent]
  by_cases h : s.entry (.profile starter.id) ≠ none
  · rw [if_pos h, if_pos (decide_eq_true h)]
  · rw [if_neg h, if_neg (by simpa using h)]

/-- What is read is what the file holds, or nothing. -/
theorem run_loadFromPath : (start.run (loadFromPath codec (LibraryName.profile starter.id)) s).2 = s ∧
    ∀ installed,
      (start.run (loadFromPath codec (LibraryName.profile starter.id)) s).1 = .ok installed →
        ∃ bytes, s.content (.profile starter.id) = some bytes ∧
          codec.fromBytes bytes = .ok installed := by
  unfold loadFromPath
  rw [run_call_bind]
  cases hread : start.faults (.read (.profile starter.id)) with
  | some fault =>
    rw [perform_of_some hread]
    refine ⟨rfl, fun installed h => ?_⟩
    cases h
  | none =>
    rw [perform_of_none hread, FileOp.succeed]
    cases hcontent : s.content (.profile starter.id) with
    | none =>
      refine ⟨rfl, fun installed h => ?_⟩
      cases h
    | some bytes =>
      refine ⟨rfl, fun installed h => ⟨bytes, rfl, ?_⟩⟩
      exact (codec.load_ok_iff).mp h

theorem run_saveStarter (action : String) :
    (start.run (saveStarter codec directory start.hub action starter) s).2 =
      (start.run (starter.profile.saveToPath codec (.importTemporary start.hub starter.id)
        (.profile starter.id)) s).2 := by
  unfold saveStarter
  rw [run_bind]
  cases (start.run (starter.profile.saveToPath codec (.importTemporary start.hub starter.id)
    (.profile starter.id)) s).1 <;> rfl

theorem touches_saveStarter (hs : Tidy s) (action : String) : Touches (.profile starter.id) s
    (start.run (saveStarter codec directory start.hub action starter) s).2 := by
  rw [run_saveStarter]
  exact runWith_saveToPath_frame hs trivial (not_temporary _)

/-- A starter's step reaches its own file only. -/
theorem touches_bootstrapStarter (hs : Tidy s) : Touches (.profile starter.id) s
    (start.run (bootstrapStarter codec directory start.hub starter) s).2 := by
  rw [run_bootstrapStarter]
  by_cases hentry : s.entry (.profile starter.id) ≠ none
  · rw [if_pos hentry, upgradeUntouchedStarter, run_bind, run_loadFromPath.1]
    cases (start.run (loadFromPath codec (LibraryName.profile starter.id)) s).1 with
    | error error => exact .refl hs
    | ok installed =>
      simp only
      by_cases hmem : installed ∈ starterPredecessors starter.profile
      · rw [if_pos hmem]
        exact touches_saveStarter hs "upgrade"
      · rw [if_neg hmem]
        exact .refl hs
  · rw [if_neg hentry]
    exact touches_saveStarter hs "install"

/-- A file that is not an earlier release is left alone, and so are all the others. -/
theorem run_settled (h : Settled codec starter s) :
    start.run (bootstrapStarter codec directory start.hub starter) s = (.ok (), s) := by
  obtain ⟨bytes, hcontent, hpredecessor⟩ := h
  have hentry : s.entry (.profile starter.id) ≠ none := by
    intro hnone
    rw [Files.content_eq_none.mpr hnone] at hcontent
    cases hcontent
  rw [run_bootstrapStarter, if_pos hentry, upgradeUntouchedStarter, run_bind, run_loadFromPath.1]
  cases hload : (start.run (loadFromPath codec (LibraryName.profile starter.id)) s).1 with
  | error error => rfl
  | ok installed =>
    obtain ⟨bytes', hcontent', hreads⟩ := run_loadFromPath.2 installed hload
    obtain rfl : bytes = bytes' := Option.some.inj (hcontent.symm.trans hcontent')
    simp only [if_neg (hpredecessor installed hreads)]
    rfl

/-- A start without faults. -/
def Bootstrap.clean (hub : ℕ) : Bootstrap := ⟨hub, fun _ => none, fun _ => rfl⟩

theorem run_saveStarter_clean (hs : Tidy s) (hvalid : starter.profile.validate = .ok ())
    (hub : ℕ) (action : String) :
    ∃ s', (Bootstrap.clean hub).run (saveStarter codec directory hub action starter) s =
        (.ok (), s') ∧ Touches (.profile starter.id) s s' ∧
      s'.content (.profile starter.id) = some (codec.text starter.profile) := by
  obtain ⟨s', hrun, htouches, hcontent⟩ := @runWith_saveToPath_clean codec starter.profile hub s
    (.importTemporary hub starter.id) (.profile starter.id) hs trivial (not_temporary _) hvalid
  refine ⟨s', ?_, htouches, hcontent⟩
  have hsave : (Bootstrap.clean hub).run (starter.profile.saveToPath codec
      (.importTemporary hub starter.id) (.profile starter.id)) s = (.ok (), s') := hrun
  unfold saveStarter
  rw [run_bind, hsave]
  rfl

/-- What a step without faults makes of the starter's file. -/
theorem run_bootstrapStarter_clean (hs : Tidy s) (hvalid : starter.profile.validate = .ok ())
    (hub : ℕ) :
    ∃ s', (Bootstrap.clean hub).run (bootstrapStarter codec directory hub starter) s =
        (.ok (), s') ∧ Touches (.profile starter.id) s s' ∧
      s'.content (.profile starter.id) =
        some (afterBootstrap codec starter.profile (s.content (.profile starter.id))) := by
  have hrun := @run_bootstrapStarter codec directory (Bootstrap.clean hub) starter s
  simp only [Bootstrap.clean] at hrun ⊢
  rw [hrun]
  cases hcontent : s.content (.profile starter.id) with
  | none =>
    rw [if_neg (not_not.mpr (Files.content_eq_none.mp hcontent))]
    exact run_saveStarter_clean hs hvalid hub "install"
  | some bytes =>
    have hentry : s.entry (.profile starter.id) ≠ none := by
      intro hnone
      rw [Files.content_eq_none.mpr hnone] at hcontent
      cases hcontent
    have hload : (Bootstrap.clean hub).run (loadFromPath codec (LibraryName.profile starter.id)) s =
        (codec.load (.ok bytes), s) := by
      unfold loadFromPath
      rw [run_call_bind, perform_of_none rfl, FileOp.succeed, hcontent]
      rfl
    simp only [Bootstrap.clean] at hload
    rw [if_pos hentry, upgradeUntouchedStarter, run_bind, hload]
    simp only [afterBootstrap, ProfileCodec.load]
    cases hreads : codec.fromBytes bytes with
    | error error => exact ⟨s, rfl, .refl hs, hcontent⟩
    | ok installed =>
      simp only
      by_cases hmem : installed ∈ starterPredecessors starter.profile
      · rw [if_pos hmem, if_pos hmem]
        exact run_saveStarter_clean hs hvalid hub "upgrade"
      · rw [if_neg hmem, if_neg hmem]
        exact ⟨s, rfl, .refl hs, hcontent⟩

end Starter

/-! ### All starters -/

section Loop

variable {codec : ProfileCodec} {directory : String} {start : Bootstrap}
  {starters : List StarterProfile} {s : Files LibraryName}

/-- The loop goes on after a starter, or ends with its error. -/
theorem run_bootstrapStarters_cons (starter : StarterProfile) :
    (∀ error s', start.run (bootstrapStarter codec directory start.hub starter) s =
      (.error error, s') →
      start.run (bootstrapStarters codec directory start.hub (starter :: starters)) s =
        (.error error, s')) ∧
    ∀ s', start.run (bootstrapStarter codec directory start.hub starter) s = (.ok (), s') →
      start.run (bootstrapStarters codec directory start.hub (starter :: starters)) s =
        start.run (bootstrapStarters codec directory start.hub starters) s' := by
  constructor
  · intro error s' h
    rw [bootstrapStarters, run_bind, h]
    rfl
  · intro s' h
    rw [bootstrapStarters, run_bind, h]

/-- **A start leaves a profile alone that is no earlier release of its starter.** -/
theorem keeps_profile {id : String} {bytes : List UInt8} (hs : Tidy s)
    (hcontent : s.content (.profile id) = some bytes)
    (hkept : ∀ starter ∈ starters, starter.id = id → ∀ installed,
      codec.fromBytes bytes = .ok installed → installed ∉ starterPredecessors starter.profile) :
    Tidy (start.run (bootstrapStarters codec directory start.hub starters) s).2 ∧
      (start.run (bootstrapStarters codec directory start.hub starters) s).2.content (.profile id) =
        some bytes := by
  induction starters generalizing s with
  | nil => exact ⟨hs, hcontent⟩
  | cons starter starters ih =>
    rw [List.forall_mem_cons] at hkept
    have hstep : Tidy (start.run (bootstrapStarter codec directory start.hub starter) s).2 ∧
        (start.run (bootstrapStarter codec directory start.hub starter) s).2.content
          (.profile id) = some bytes := by
      by_cases hid : starter.id = id
      · -- The file is seen, and it is not upgraded.
        subst hid
        rw [run_settled ⟨bytes, hcontent, hkept.1 rfl⟩]
        exact ⟨hs, hcontent⟩
      · have htouches : Touches (.profile starter.id) s
            (start.run (bootstrapStarter codec directory start.hub starter) s).2 :=
          touches_bootstrapStarter hs
        have hne : LibraryName.profile id ≠ .profile starter.id := by
          intro h
          exact hid (LibraryName.profile.inj h).symm
        exact ⟨htouches.tidy, (htouches.content _ (not_temporary id) hne).trans hcontent⟩
    obtain ⟨hfailed, hdone⟩ := @run_bootstrapStarters_cons codec directory start starters s starter
    cases hrun : start.run (bootstrapStarter codec directory start.hub starter) s with
    | mk result s' =>
      rw [hrun] at hstep
      cases result with
      | error error =>
        rw [hfailed error s' hrun]
        exact hstep
      | ok =>
        rw [hdone s' hrun]
        exact ih hstep.1 hstep.2 hkept.2

/-- Nothing happens where no file is an earlier release. -/
theorem run_all_settled (h : ∀ starter ∈ starters, Settled codec starter s) :
    start.run (bootstrapStarters codec directory start.hub starters) s = (.ok (), s) := by
  induction starters with
  | nil => rfl
  | cons starter starters ih =>
    rw [List.forall_mem_cons] at h
    rw [(run_bootstrapStarters_cons starter).2 s (run_settled h.1)]
    exact ih h.2

/-- **What a start without faults makes of each file.** -/
theorem run_clean (hs : Tidy s) (hub : ℕ)
    (hvalid : ∀ starter ∈ starters, starter.profile.validate = .ok ())
    (hids : starters.Pairwise fun a b => a.id ≠ b.id) :
    ∃ s', (Bootstrap.clean hub).run (bootstrapStarters codec directory hub starters) s =
        (.ok (), s') ∧ Tidy s' ∧
      (∀ starter ∈ starters, s'.content (.profile starter.id) =
        some (afterBootstrap codec starter.profile (s.content (.profile starter.id)))) ∧
      ∀ id, (∀ starter ∈ starters, starter.id ≠ id) →
        s'.content (.profile id) = s.content (.profile id) := by
  induction starters generalizing s with
  | nil => exact ⟨s, rfl, hs, fun _ h => (by cases h), fun _ _ => rfl⟩
  | cons starter starters ih =>
    rw [List.forall_mem_cons] at hvalid
    rw [List.pairwise_cons] at hids
    obtain ⟨s₁, hrun₁, htouches, hcontent⟩ :=
      @run_bootstrapStarter_clean codec directory starter s hs hvalid.1 hub
    obtain ⟨s₂, hrun₂, htidy, hothers, hframe⟩ := ih htouches.tidy hvalid.2 hids.2
    have hsame : ∀ id, starter.id ≠ id → s₁.content (.profile id) = s.content (.profile id) := by
      intro id hid
      refine htouches.content _ (not_temporary id) ?_
      intro h
      exact hid (LibraryName.profile.inj h).symm
    refine ⟨s₂, ?_, htidy, ?_, ?_⟩
    · rw [← hrun₂]
      exact (@run_bootstrapStarters_cons codec directory (.clean hub) starters s starter).2 s₁ hrun₁
    · rw [List.forall_mem_cons]
      constructor
      · rw [hframe starter.id fun other hother => (hids.1 other hother).symm]
        exact hcontent
      · intro other hother
        rw [hothers other hother, hsame other.id (hids.1 other hother)]
    · intro id hid
      rw [List.forall_mem_cons] at hid
      rw [hframe id hid.2, hsame id hid.1]

end Loop

/-! ### Starts of the hub -/

section Starts

variable {codec : ProfileCodec} {directory : String} {s : Files LibraryName}

/-- The directory after these starts of the hub. -/
def bootstraps (codec : ProfileCodec) (directory : String) (starts : List Bootstrap)
    (s : Files LibraryName) : Files LibraryName :=
  starts.foldl (fun s start => (start.run (bootstrapLibrary codec directory start.hub) s).2) s

/-- The starter's file reads as this profile. -/
def Holds (codec : ProfileCodec) (s : Files LibraryName) (id : String)
    (document : ProfileDocument) : Prop :=
  ∃ bytes, s.content (.profile id) = some bytes ∧ codec.fromBytes bytes = .ok document

/-- The codec reads what it has written of these profiles. -/
def ReadsBack (codec : ProfileCodec) (documents : List ProfileDocument) : Prop :=
  ∀ document ∈ documents, codec.fromBytes (codec.text document) = .ok document

theorem ReadsBack.starters {document : ProfileDocument}
    (h : ReadsBack codec (document :: STARTER_PROFILES.map StarterProfile.profile)) :
    ReadsBack codec (STARTER_PROFILES.map StarterProfile.profile) :=
  fun other hother => h other (List.mem_cons_of_mem _ hother)

/-- The library directory cannot be created, or the starters are gone through. -/
theorem run_bootstrapLibrary (start : Bootstrap) :
    (start.run (bootstrapLibrary codec directory start.hub) s).2 = s ∨
      start.run (bootstrapLibrary codec directory start.hub) s =
        start.run (bootstrapStarters codec directory start.hub STARTER_PROFILES) s := by
  unfold bootstrapLibrary
  rw [run_call_bind]
  cases hcreate : start.faults .createDirectory with
  | some fault =>
    rw [perform_of_some hcreate]
    exact .inl rfl
  | none =>
    rw [perform_of_none hcreate]
    exact .inr rfl

/-- A profile that is no earlier release stays, however often the hub is started. -/
theorem bootstraps_keep {starter : StarterProfile} (hstarter : starter ∈ STARTER_PROFILES)
    {document : ProfileDocument} {bytes : List UInt8} (hs : Tidy s)
    (hcontent : s.content (.profile starter.id) = some bytes)
    (hreads : codec.fromBytes bytes = .ok document)
    (hkept : document ∉ starterPredecessors starter.profile) (starts : List Bootstrap) :
    (bootstraps codec directory starts s).content (.profile starter.id) = some bytes := by
  have hall : ∀ other ∈ STARTER_PROFILES, other.id = starter.id → ∀ installed,
      codec.fromBytes bytes = .ok installed →
        installed ∉ starterPredecessors other.profile := by
    intro other hother hid installed hinstalled
    have hsame : other = starter :=
      List.inj_on_of_nodup_map (List.pairwise_map.mpr starter_ids) hother hstarter hid
    rw [hreads, Except.ok.injEq] at hinstalled
    rw [hsame, ← hinstalled]
    exact hkept
  induction starts generalizing s with
  | nil => exact hcontent
  | cons start starts ih =>
    have hnext : Tidy (start.run (bootstrapLibrary codec directory start.hub) s).2 ∧
        (start.run (bootstrapLibrary codec directory start.hub) s).2.content
          (.profile starter.id) = some bytes := by
      rcases run_bootstrapLibrary start with h | h
      · rw [h]
        exact ⟨hs, hcontent⟩
      · rw [h]
        exact keeps_profile hs hcontent hall
    exact ih hnext.1 hnext.2

/-- What the first start without faults leaves behind is settled. -/
theorem settled_after_clean (hs : Tidy s) (hub : ℕ)
    (hreads : ReadsBack codec (STARTER_PROFILES.map StarterProfile.profile)) :
    ∃ s', (Bootstrap.clean hub).run (bootstrapLibrary codec directory hub) s = (.ok (), s') ∧
      Tidy s' ∧ (∀ starter ∈ STARTER_PROFILES, Settled codec starter s') ∧
      ∀ starter ∈ STARTER_PROFILES, s'.content (.profile starter.id) =
        some (afterBootstrap codec starter.profile (s.content (.profile starter.id))) := by
  obtain ⟨s', hrun, htidy, hcontent, -⟩ :=
    @run_clean codec directory STARTER_PROFILES s hs hub starters_valid starter_ids
  refine ⟨s', hrun, htidy, ?_, hcontent⟩
  intro starter hstarter
  have hcurrent : ∀ installed, codec.fromBytes (codec.text starter.profile) = .ok installed →
      installed ∉ starterPredecessors starter.profile := by
    intro installed hinstalled
    rw [hreads starter.profile (List.mem_map_of_mem hstarter), Except.ok.injEq] at hinstalled
    rw [← hinstalled]
    exact current_not_predecessor starter hstarter
  refine ⟨_, hcontent starter hstarter, ?_⟩
  cases s.content (.profile starter.id) with
  | none => exact hcurrent
  | some bytes =>
    simp only [afterBootstrap]
    cases hold : codec.fromBytes bytes with
    | error error =>
      intro installed hinstalled
      simp only [hold] at hinstalled
      cases hinstalled
    | ok old =>
      simp only
      by_cases hmem : old ∈ starterPredecessors starter.profile
      · rw [if_pos hmem]
        exact hcurrent
      · rw [if_neg hmem]
        intro installed hinstalled
        rw [hold, Except.ok.injEq] at hinstalled
        rw [← hinstalled]
        exact hmem

/-- Starts of the hub do nothing to a settled library. -/
theorem bootstraps_settled (h : ∀ starter ∈ STARTER_PROFILES, Settled codec starter s)
    (starts : List Bootstrap) : bootstraps codec directory starts s = s := by
  induction starts with
  | nil => rfl
  | cons start starts ih =>
    have hnext : (start.run (bootstrapLibrary codec directory start.hub) s).2 = s := by
      rcases run_bootstrapLibrary start with hrun | hrun
      · exact hrun
      · rw [hrun, run_all_settled h]
    rw [bootstraps, List.foldl_cons, hnext]
    exact ih

/-- An earlier release is lost in the first start without faults. -/
theorem not_holds_of_predecessor {starter : StarterProfile} (hstarter : starter ∈ STARTER_PROFILES)
    {document : ProfileDocument} (hs : Tidy s)
    (hreads : ReadsBack codec (document :: STARTER_PROFILES.map StarterProfile.profile))
    (hsaved : s.content (.profile starter.id) = some (codec.text document))
    (hmem : document ∈ starterPredecessors starter.profile) (hub : ℕ) :
    ¬ Holds codec (bootstraps codec directory [.clean hub] s) starter.id document := by
  rintro ⟨bytes, hbytes, hholds⟩
  obtain ⟨s', hrun, -, -, hafter⟩ := @settled_after_clean codec directory s hs hub hreads.starters
  have hstate : bootstraps codec directory [.clean hub] s = s' := congrArg Prod.snd hrun
  rw [hstate, hafter starter hstarter, hsaved] at hbytes
  simp only [afterBootstrap, hreads document (List.mem_cons_self ..), if_pos hmem] at hbytes
  obtain rfl := Option.some.inj hbytes
  rw [hreads.starters starter.profile (List.mem_map_of_mem hstarter), Except.ok.injEq] at hholds
  rw [← hholds] at hmem
  exact current_not_predecessor starter hstarter hmem

/-! ### A library with an edited starter -/

def blankLibrary : Files LibraryName where
  entry _ := none
  data _ := []
  next := 0
  holder _ := none
  stagers _ := ∅

theorem blankLibrary_tidy : Tidy blankLibrary where
  bounded := fun _ _ h => (by cases h)
  sole := fun _ _ => Files.sole_of_none rfl

/-- The first start on an empty library, and a profile saved over a starter's file after it. -/
def editedLibrary (codec : ProfileCodec) (directory : String) (starter : StarterProfile)
    (document : ProfileDocument) : Files LibraryName :=
  ((Bootstrap.clean 1).run
    (document.saveToPath codec (.importTemporary 1 starter.id) (.profile starter.id))
    (bootstraps codec directory [.clean 0] blankLibrary)).2

theorem editedLibrary_saved (starter : StarterProfile) {document : ProfileDocument}
    (hvalid : document.validate = .ok ())
    (hreads : ReadsBack codec (STARTER_PROFILES.map StarterProfile.profile)) :
    Tidy (editedLibrary codec directory starter document) ∧
      (editedLibrary codec directory starter document).content (.profile starter.id) =
        some (codec.text document) := by
  obtain ⟨s', hrun, htidy, -, -⟩ :=
    @settled_after_clean codec directory blankLibrary blankLibrary_tidy 0 hreads
  have hstate : bootstraps codec directory [.clean 0] blankLibrary = s' := congrArg Prod.snd hrun
  obtain ⟨s'', hsave, htouches, hcontent⟩ := @runWith_saveToPath_clean codec document 1 s'
    (.importTemporary 1 starter.id) (.profile starter.id) htidy trivial (not_temporary _) hvalid
  have hedited : editedLibrary codec directory starter document = s'' := by
    rw [editedLibrary, hstate]
    exact congrArg Prod.snd hsave
  rw [hedited]
  exact ⟨htouches.tidy, hcontent⟩

/-- The PUBG starter under a name of the user's. -/
def renamedStarter : ProfileDocument :=
  { pubgStarter with profile.name := "My PUBG layout" }

/-- The PUBG starter of a user who does not reload by a key. -/
def withoutReload : ProfileDocument :=
  { pubgStarter with
    profile.bindings := pubgStarter.profile.bindings.filter fun binding => binding.name ≠ "reload" }

/-- The codec of the starters and an edited one. -/
def editedCodec (document : ProfileDocument) : ProfileCodec :=
  .table (document :: STARTER_PROFILES.map StarterProfile.profile)

theorem table_readsBack {documents : List ProfileDocument}
    (hdiffer : documents.Pairwise fun a b => utf8Bytes a.prettyText ≠ utf8Bytes b.prettyText) :
    ReadsBack (.table documents) documents :=
  fun _ hmem => table_reads hdiffer hmem

/-- **A starter's file keeps the user's profile over every number of starts iff the profile is
not an earlier release; a start after a start changes nothing.** -/
theorem edits_survive_iff (codec : ProfileCodec) (directory : String) (starter : StarterProfile)
    (hstarter : starter ∈ STARTER_PROFILES) (document : ProfileDocument)
    (hreads : ReadsBack codec (document :: STARTER_PROFILES.map StarterProfile.profile))
    (s : Files LibraryName) (hs : Tidy s)
    (hsaved : s.content (.profile starter.id) = some (codec.text document)) :
    ((∀ starts, Holds codec (bootstraps codec directory starts s) starter.id document) ↔
        document ∉ starterPredecessors starter.profile) ∧
      ∀ hub starts, bootstraps codec directory (.clean hub :: starts) s =
        bootstraps codec directory [.clean hub] s := by
  have hdocument := hreads document (List.mem_cons_self ..)
  have hstarters : ReadsBack codec (STARTER_PROFILES.map StarterProfile.profile) := hreads.starters
  refine ⟨⟨?_, ?_⟩, ?_⟩
  · -- One start without faults overwrites an earlier release.
    intro hkeeps hmem
    exact not_holds_of_predecessor hstarter hs hreads hsaved hmem 0 (hkeeps [.clean 0])
  · intro hkept starts
    exact ⟨_, bootstraps_keep hstarter hs hsaved hdocument hkept starts, hdocument⟩
  · intro hub starts
    obtain ⟨s', hrun, -, hsettled, -⟩ :=
      @settled_after_clean codec directory s hs hub hstarters
    have hstate : bootstraps codec directory [.clean hub] s = s' := congrArg Prod.snd hrun
    have hfirst : bootstraps codec directory (.clean hub :: starts) s =
        bootstraps codec directory starts (bootstraps codec directory [.clean hub] s) := rfl
    rw [hfirst, hstate, bootstraps_settled hsettled]

theorem edits_survive_renamed :
    ((∀ starts, Holds (editedCodec renamedStarter)
        (bootstraps (editedCodec renamedStarter) "/profiles" starts
          (editedLibrary (editedCodec renamedStarter) "/profiles" ⟨"pubg-mobile", pubgStarter⟩
            renamedStarter))
        "pubg-mobile" renamedStarter) ↔
        renamedStarter ∉ starterPredecessors pubgStarter) ∧
      ∀ hub starts, bootstraps (editedCodec renamedStarter) "/profiles" (.clean hub :: starts)
          (editedLibrary (editedCodec renamedStarter) "/profiles" ⟨"pubg-mobile", pubgStarter⟩
            renamedStarter) =
        bootstraps (editedCodec renamedStarter) "/profiles" [.clean hub]
          (editedLibrary (editedCodec renamedStarter) "/profiles" ⟨"pubg-mobile", pubgStarter⟩
            renamedStarter) := by
  have hreads : ReadsBack (editedCodec renamedStarter)
      (renamedStarter :: STARTER_PROFILES.map StarterProfile.profile) :=
    table_readsBack (by decide +kernel)
  have hedited := @editedLibrary_saved _ "/profiles" ⟨"pubg-mobile", pubgStarter⟩ renamedStarter
    (by decide +kernel) hreads.starters
  exact edits_survive_iff _ "/profiles" ⟨"pubg-mobile", pubgStarter⟩ (List.mem_cons_self ..)
    renamedStarter hreads _ hedited.1 hedited.2

/-- A user who removes the reload button from the PUBG starter has it back after the next start. -/
theorem reload_button_comes_back : withoutReload.validate = .ok () ∧
    ReadsBack (editedCodec withoutReload)
      (withoutReload :: STARTER_PROFILES.map StarterProfile.profile) ∧
    (editedLibrary (editedCodec withoutReload) "/profiles" ⟨"pubg-mobile", pubgStarter⟩
      withoutReload).content (.profile "pubg-mobile") =
        some ((editedCodec withoutReload).text withoutReload) ∧
    ¬ Holds (editedCodec withoutReload)
      (bootstraps (editedCodec withoutReload) "/profiles" [.clean 2]
        (editedLibrary (editedCodec withoutReload) "/profiles" ⟨"pubg-mobile", pubgStarter⟩
          withoutReload))
      "pubg-mobile" withoutReload := by
  have hvalid : withoutReload.validate = .ok () := by decide +kernel
  have hreads : ReadsBack (editedCodec withoutReload)
      (withoutReload :: STARTER_PROFILES.map StarterProfile.profile) :=
    table_readsBack (by decide +kernel)
  have hedited := @editedLibrary_saved _ "/profiles" ⟨"pubg-mobile", pubgStarter⟩ withoutReload
    hvalid hreads.starters
  have hmem : withoutReload ∈ starterPredecessors pubgStarter := by decide +kernel
  exact ⟨hvalid, hreads, hedited.2,
    not_holds_of_predecessor (List.mem_cons_self ..) hedited.1 hreads hedited.2 hmem 2⟩

end Starts

end Wroid.Starters
