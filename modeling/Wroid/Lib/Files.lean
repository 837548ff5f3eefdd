import Wroid.Lib.Interleaving

/-!
# Files that several processes prepare

Processes share a directory.  A name stands for a file, and the file keeps its number whatever it
is called: who has opened a file goes on writing it, even when another process has renamed it.

A file is prepared under one name and then published under another one, by a rename or a link.
Whoever looks at the published name sees a complete file, as long as nobody else prepares a file
under the same name at the same time.  `Staged` says so; each operation keeps it.

## Main definitions

* `Files`, `FileOp`, `FileOp.Exec` — the directory, and what is done with it.
* `Files.content` — what a reader of a name sees.
* `Draft`, `Files.Staged` — the files in preparation, each by one process, under one name.

## Main results

* `Staged.create`, `Staged.write`, `Staged.rename`, `Staged.link`, `Staged.remove`,
  `Staged.touch` — what a step of a preparation leaves behind.
* `content_create`, `content_store`, `content_rename` — the names it does not change.
-/

namespace Wroid.Lib

/-! ### The directory -/

inductive FileError
  | notFound
  | alreadyExists
  | other (text : String)
  deriving DecidableEq, Repr

/-- The text of an operating system for the error. -/
def FileError.text : FileError → String
  | .notFound => "No such file or directory (os error 2)"
  | .alreadyExists => "File exists (os error 17)"
  | .other text => text

/-- Which file a name stands for, what the files hold, and who has locked them.  The files from
`next` on do not exist yet.

`stagers` are the processes that prepare a file under a name: they created it, and have neither
renamed nor removed it since, nor failed to write it.  No process can see them. -/
structure Files (Name : Type) where
  entry : Name → Option ℕ
  data : ℕ → List UInt8
  next : ℕ
  holder : Name → Option ℕ
  stagers : Name → Set ℕ

inductive FileOp (Name : Type)
  /-- Create the file, or truncate the one there is. -/
  | create (name : Name)
  | createNew (name : Name)
  /-- Open the file, or create it. -/
  | touch (name : Name)
  /-- Write an open file from its start. -/
  | write (file : ℕ) (bytes : List UInt8)
  | sync (file : ℕ)
  | rename (old new : Name)
  /-- Give the file a second name, if that is free. -/
  | link (old new : Name)
  | remove (name : Name)
  | read (name : Name)
  | present (name : Name)
  | setPermissions (name : Name)
  | createDirectory
  | syncDirectory
  | lock (name : Name)
  | unlock (name : Name)

@[reducible] def FileOp.Answer {Name : Type} : FileOp Name → Type
  | .create _ | .createNew _ => Except FileError ℕ
  | .read _ => Except FileError (List UInt8)
  | .present _ => Bool
  | .unlock _ => Unit
  | .touch _ | .write .. | .sync _ | .rename .. | .link .. | .remove _ | .setPermissions _
  | .createDirectory | .syncDirectory | .lock _ => Except FileError Unit

namespace Files

variable {Name : Type} [DecidableEq Name] (s : Files Name)

/-- What a reader of the name sees. -/
def content (name : Name) : Option (List UInt8) := (s.entry name).map s.data

/-- The file under the name, or the one it would be. -/
def fileOf (name : Name) : ℕ := (s.entry name).getD s.next

/-- The directory with an empty file under the name. -/
def create (pid : ℕ) (name : Name) : Files Name :=
  { s with
    entry := Function.update s.entry name (some (s.fileOf name))
    data := Function.update s.data (s.fileOf name) []
    next := max s.next (s.fileOf name + 1)
    stagers := Function.update s.stagers name (insert pid (s.stagers name)) }

def touch (name : Name) : Files Name :=
  { s with
    entry := Function.update s.entry name (some (s.fileOf name))
    data := if s.entry name = none then Function.update s.data s.next [] else s.data
    next := max s.next (s.fileOf name + 1) }

def store (file : ℕ) (bytes : List UInt8) : Files Name :=
  { s with data := Function.update s.data file (bytes ++ (s.data file).drop bytes.length) }

/-- The file under `old`, if there is one, gets the name `new` instead; two names of one file
are left alone. -/
def rename (old new : Name) : Files Name :=
  if s.entry old = s.entry new then s
  else { s with entry := Function.update (Function.update s.entry new (s.entry old)) old none }

def link (old new : Name) : Files Name :=
  { s with entry := Function.update s.entry new (s.entry old) }

def remove (name : Name) : Files Name := { s with entry := Function.update s.entry name none }

/-- The process does not prepare a file under the name any more. -/
def leave (pid : ℕ) (name : Name) : Files Name :=
  { s with stagers := Function.update s.stagers name (s.stagers name \ {pid}) }

/-- The process does not prepare any file any more. -/
def giveUp (pid : ℕ) : Files Name := { s with stagers := fun name => s.stagers name \ {pid} }

def setHolder (name : Name) (holder : Option ℕ) : Files Name :=
  { s with holder := Function.update s.holder name holder }

end Files

/-- The effect of an operation of the process `pid`.  Whatever can fail may fail at any time; a
write that fails has written a first part. -/
def FileOp.Exec {Name : Type} [DecidableEq Name] (pid : ℕ) (s : Files Name) :
    (op : FileOp Name) → op.Answer → Files Name → Prop
  | .create name, .ok file, s' => file = s.fileOf name ∧ s' = s.create pid name
  | .create _, .error _, s' => s' = s
  | .createNew name, .ok file, s' =>
    s.entry name = none ∧ file = s.fileOf name ∧ s' = s.create pid name
  | .createNew _, .error _, s' => s' = s
  | .touch name, .ok _, s' => s' = s.touch name
  | .touch _, .error _, s' => s' = s
  | .write file bytes, .ok _, s' => s' = s.store file bytes
  | .write file bytes, .error _, s' => ∃ part, part <+: bytes ∧ s' = (s.store file part).giveUp pid
  | .sync _, _, s' => s' = s
  | .rename old new, .ok _, s' => s.entry old ≠ none ∧ s' = (s.rename old new).leave pid old
  | .rename _ _, .error _, s' => s' = s
  | .link old new, .ok _, s' => s.entry old ≠ none ∧ s.entry new = none ∧ s' = s.link old new
  | .link _ new, .error error, s' => (error = .alreadyExists → s.entry new ≠ none) ∧ s' = s
  | .remove name, .ok _, s' => s' = (s.remove name).leave pid name
  | .remove name, .error _, s' => s' = s.leave pid name
  | .read name, .ok bytes, s' => s.content name = some bytes ∧ s' = s
  | .read name, .error error, s' => (error = .notFound → s.entry name = none) ∧ s' = s
  | .present name, found, s' => (found = true → s.entry name ≠ none) ∧ s' = s
  | .setPermissions _, _, s' | .createDirectory, _, s' | .syncDirectory, _, s' => s' = s
  | .lock name, .ok _, s' => s.holder name = none ∧ s' = s.setHolder name (some pid)
  | .lock _, .error _, s' => s' = s
  | .unlock name, _, s' => s' = s.setHolder name none

abbrev FileProgram (Name : Type) := Program (FileOp Name) FileOp.Answer

def FileOp.call {Name : Type} (op : FileOp Name) : FileProgram Name op.Answer := Program.call op

/-! ### Drafts -/

/-- A file in preparation: its name, its number, and what it holds. -/
structure Draft (Name : Type) where
  name : Name
  file : ℕ
  bytes : List UInt8

namespace Files

variable {Name : Type}

@[simp] theorem stagers_create [DecidableEq Name] (s : Files Name) (pid : ℕ) (name : Name) :
    (s.create pid name).stagers name = insert pid (s.stagers name) := Function.update_self ..

@[simp] theorem stagers_leave [DecidableEq Name] (s : Files Name) (pid : ℕ) (name : Name) :
    (s.leave pid name).stagers name = s.stagers name \ {pid} := Function.update_self ..

@[simp] theorem stagers_rename [DecidableEq Name] (s : Files Name) (old new : Name) :
    (s.rename old new).stagers = s.stagers := by
  unfold rename
  split <;> rfl

@[simp] theorem entry_remove [DecidableEq Name] (s : Files Name) (name : Name) :
    (s.remove name).entry name = none := Function.update_self ..

/-- The files in preparation: each has one name only, and one process that prepares it. -/
structure Staged (s : Files Name) (drafts : ℕ → Option (Draft Name)) : Prop where
  bounded : ∀ name file, s.entry name = some file → file < s.next
  entry : ∀ pid d, drafts pid = some d → s.entry d.name = some d.file
  data : ∀ pid d, drafts pid = some d → s.data d.file = d.bytes
  sole : ∀ pid d, drafts pid = some d → ∀ name, s.entry name = some d.file → name = d.name
  alone : ∀ pid pid' d d', drafts pid = some d → drafts pid' = some d' → d.name = d'.name →
    pid = pid'

/-- The name has a file to itself, if it has one. -/
def Sole (s : Files Name) (name : Name) : Prop :=
  ∀ file, s.entry name = some file → ∀ name', s.entry name' = some file → name' = name

theorem sole_of_none {s : Files Name} {name : Name} (h : s.entry name = none) : s.Sole name := by
  intro file hfile
  rw [h] at hfile
  cases hfile

/-- The name keeps its file to itself while the files of other names are those of other names. -/
theorem Sole.of_entries {s s' : Files Name} {name : Name} (h : s.Sole name)
    (hentry : s'.entry name = s.entry name) (hfrom : ∀ name' file, s'.entry name' = some file →
      s.entry name' = some file ∨ ∃ old ≠ name, s.entry old = some file) : s'.Sole name := by
  intro file hfile name' hname'
  rw [hentry] at hfile
  rcases hfrom name' file hname' with hname' | ⟨old, hne, hold⟩
  · exact h file hfile name' hname'
  · exact absurd (h file hfile old hold) hne

/-- Nobody prepares a file under the name. -/
def Undrafted (drafts : ℕ → Option (Draft Name)) (name : Name) : Prop :=
  ∀ pid d, drafts pid = some d → d.name ≠ name

section Content

variable {s : Files Name} {name name' : Name}

/-- Another name stands for another file than the one to be created. -/
theorem ne_fileOf (hb : ∀ name file, s.entry name = some file → file < s.next) (hsole : s.Sole name)
    (hne : name' ≠ name) {file : ℕ} (h : s.entry name' = some file) : file ≠ s.fileOf name := by
  rintro rfl
  cases hentry : s.entry name with
  | none =>
    have hnext : s.fileOf name = s.next := by rw [fileOf, hentry, Option.getD_none]
    exact absurd (hb name' _ h) (by omega)
  | some file =>
    have hfile : s.fileOf name = file := by rw [fileOf, hentry, Option.getD_some]
    exact hne (hsole file hentry name' (hfile ▸ h))

@[simp] theorem content_eq_none : s.content name = none ↔ s.entry name = none := by
  rw [content, Option.map_eq_none_iff]

theorem content_store {file : ℕ} (bytes : List UInt8) (hne : s.entry name' ≠ some file) :
    (s.store file bytes).content name' = s.content name' := by
  simp only [content, store]
  cases hentry : s.entry name' with
  | none => rfl
  | some file' =>
    have hfile : file' ≠ file := fun h => hne (h ▸ hentry)
    rw [Option.map_some, Option.map_some, Function.update_of_ne hfile]

variable [DecidableEq Name]

theorem content_create (pid : ℕ) (hb : ∀ name file, s.entry name = some file → file < s.next)
    (hsole : s.Sole name) (hne : name' ≠ name) :
    (s.create pid name).content name' = s.content name' := by
  simp only [content, create, Function.update_of_ne hne]
  cases hentry : s.entry name' with
  | none => rfl
  | some file =>
    rw [Option.map_some, Option.map_some, Function.update_of_ne (ne_fileOf hb hsole hne hentry)]

theorem content_rename {old new : Name} (hold : name' ≠ old) (hnew : name' ≠ new) :
    (s.rename old new).content name' = s.content name' := by
  unfold rename
  split
  · rfl
  · simp only [content, Function.update_of_ne hold, Function.update_of_ne hnew]

theorem content_remove (hne : name' ≠ name) : (s.remove name).content name' = s.content name' := by
  simp only [content, remove, Function.update_of_ne hne]

@[simp] theorem content_leave (pid : ℕ) : (s.leave pid name).content = s.content := rfl

omit [DecidableEq Name] in
@[simp] theorem content_giveUp (pid : ℕ) : (s.giveUp pid).content = s.content := rfl

@[simp] theorem content_setHolder (holder : Option ℕ) :
    (s.setHolder name holder).content = s.content := rfl

end Content

section Sole

variable [DecidableEq Name] {s : Files Name} {name : Name}

theorem Sole.rename (h : s.Sole name) {old new : Name} (hne : name ≠ new) :
    (s.rename old new).Sole name := by
  unfold Files.rename
  split
  · exact h
  · rcases eq_or_ne name old with rfl | hold
    · exact sole_of_none (Function.update_self ..)
    · refine h.of_entries ?_ fun name' file hname' => ?_
      · exact (Function.update_of_ne hold _ _).trans (Function.update_of_ne hne _ _)
      · rcases eq_or_ne name' old with rfl | hold'
        · simp at hname'
        · simp only [Function.update_of_ne hold'] at hname'
          rcases eq_or_ne name' new with rfl | hnew
          · exact .inr ⟨old, hold.symm, by simpa using hname'⟩
          · exact .inl (by rwa [Function.update_of_ne hnew] at hname')

theorem Sole.link (h : s.Sole name) {old new : Name} (hold : old ≠ name) (hnew : name ≠ new) :
    (s.link old new).Sole name := by
  refine h.of_entries (Function.update_of_ne hnew _ _) fun name' file hname' => ?_
  rcases eq_or_ne name' new with rfl | hne
  · exact .inr ⟨old, hold, by simpa [Files.link] using hname'⟩
  · exact .inl (by simpa [Files.link, Function.update_of_ne hne] using hname')

theorem Sole.remove (h : s.Sole name) (removed : Name) : (s.remove removed).Sole name := by
  rcases eq_or_ne name removed with rfl | hne
  · exact sole_of_none (entry_remove s name)
  · refine h.of_entries (Function.update_of_ne hne _ _) fun name' file hname' => .inl ?_
    rcases eq_or_ne name' removed with rfl | hne'
    · simp at hname'
    · simpa [Files.remove, Function.update_of_ne hne'] using hname'

/-- The file that is created is new, or has been that of its name alone. -/
theorem Sole.create (h : s.Sole name)
    (hb : ∀ name file, s.entry name = some file → file < s.next) (pid : ℕ) {created : Name}
    (hcreated : s.Sole created) : (s.create pid created).Sole name := by
  intro file hfile name' hname'
  rcases eq_or_ne name created with rfl | hne
  · by_contra hne'
    obtain rfl : s.fileOf name = file := by simpa [Files.create] using hfile
    have hold : s.entry name' = some (s.fileOf name) := by
      simpa [Files.create, Function.update_of_ne hne'] using hname'
    exact ne_fileOf hb h hne' hold rfl
  · have hold : s.entry name = some file := by
      simpa [Files.create, Function.update_of_ne hne] using hfile
    rcases eq_or_ne name' created with rfl | hne'
    · obtain rfl : s.fileOf name' = file := by simpa [Files.create] using hname'
      exact absurd rfl (ne_fileOf hb hcreated hne hold)
    · exact h file hold name' (by simpa [Files.create, Function.update_of_ne hne'] using hname')

end Sole

section Stagers

variable [DecidableEq Name] {s : Files Name} {pid q : ℕ} {name name' : Name}

theorem mem_stagers_create (h : q ∈ s.stagers name') : q ∈ (s.create pid name).stagers name' := by
  rcases eq_or_ne name' name with rfl | hne
  · rw [stagers_create]
    exact Set.mem_insert_of_mem _ h
  · simpa [create, Function.update_of_ne hne] using h

theorem mem_stagers_leave (hq : q ≠ pid) (h : q ∈ s.stagers name') :
    q ∈ (s.leave pid name).stagers name' := by
  rcases eq_or_ne name' name with rfl | hne
  · rw [stagers_leave]
    exact ⟨h, hq⟩
  · simpa [leave, Function.update_of_ne hne] using h

end Stagers

section Staged

variable {s : Files Name} {drafts : ℕ → Option (Draft Name)} {pid : ℕ} {d : Draft Name}

theorem Staged.of_bounded (hb : ∀ name file, s.entry name = some file → file < s.next) :
    s.Staged fun _ => none :=
  ⟨hb, nofun, nofun, nofun, nofun⟩

/-- Only the entries, the data and the bound matter. -/
theorem Staged.of_eq (h : s.Staged drafts) {s' : Files Name} (hentry : s'.entry = s.entry)
    (hdata : s'.data = s.data) (hnext : s'.next = s.next) : s'.Staged drafts := by
  refine ⟨?_, ?_, ?_, ?_, h.alone⟩
  · rw [hentry, hnext]
    exact h.bounded
  · rw [hentry]
    exact h.entry
  · rw [hdata]
    exact h.data
  · rw [hentry]
    exact h.sole

/-- A draft may be given up at any time. -/
theorem Staged.drop (h : s.Staged drafts) (pid : ℕ) :
    s.Staged (Function.update drafts pid none) := by
  have hold : ∀ q d, Function.update drafts pid none q = some d → drafts q = some d := by
    intro q d hq
    rcases eq_or_ne q pid with rfl | hne
    · simp at hq
    · rwa [Function.update_of_ne hne] at hq
  exact ⟨h.bounded, fun q d hq => h.entry q d (hold q d hq), fun q d hq => h.data q d (hold q d hq),
    fun q d hq => h.sole q d (hold q d hq),
    fun q q' d d' hq hq' => h.alone q q' d d' (hold q d hq) (hold q' d' hq')⟩

/-- A name that is not the draft's stands for another file. -/
theorem Staged.entry_ne (h : s.Staged drafts) (hd : drafts pid = some d) {name : Name}
    (hne : name ≠ d.name) : s.entry name ≠ some d.file :=
  fun hentry => hne (h.sole pid d hd name hentry)

theorem Staged.sole_name (h : s.Staged drafts) (hd : drafts pid = some d) : s.Sole d.name := by
  intro file hfile name hname
  obtain rfl : d.file = file := Option.some.inj ((h.entry pid d hd).symm.trans hfile)
  exact h.sole pid d hd name hname

theorem Staged.content_draft (h : s.Staged drafts) (hd : drafts pid = some d) :
    s.content d.name = some d.bytes := by
  rw [content, h.entry pid d hd, Option.map_some, h.data pid d hd]

/-- **A draft is written.** -/
theorem Staged.write (h : s.Staged drafts) (hd : drafts pid = some d) (bytes : List UInt8) :
    (s.store d.file bytes).Staged (Function.update drafts pid
      (some ⟨d.name, d.file, bytes ++ d.bytes.drop bytes.length⟩)) := by
  have hold : ∀ q e, Function.update drafts pid
      (some ⟨d.name, d.file, bytes ++ d.bytes.drop bytes.length⟩) q = some e →
        ∃ e', drafts q = some e' ∧ e'.name = e.name ∧ e'.file = e.file := by
    intro q e he
    rcases eq_or_ne q pid with rfl | hq
    · rw [Function.update_self] at he
      obtain rfl := Option.some.inj he
      exact ⟨d, hd, rfl, rfl⟩
    · rw [Function.update_of_ne hq] at he
      exact ⟨e, he, rfl, rfl⟩
  refine ⟨h.bounded, fun q e he => ?_, fun q e he => ?_, fun q e he name hname => ?_,
    fun q q' e e' he he' heq => ?_⟩
  · obtain ⟨e', he', hname, hfile⟩ := hold q e he
    exact hname ▸ hfile ▸ h.entry q e' he'
  · rcases eq_or_ne q pid with rfl | hq
    · rw [Function.update_self] at he
      obtain rfl := Option.some.inj he
      exact (Function.update_self _ _ _).trans (by rw [h.data q d hd])
    · rw [Function.update_of_ne hq] at he
      have hfile : e.file ≠ d.file := by
        intro hfile
        have hname := h.sole pid d hd e.name (hfile ▸ h.entry q e he)
        exact hq (h.alone q pid e d he hd hname)
      exact (Function.update_of_ne hfile _ _).trans (h.data q e he)
  · obtain ⟨e', he', hname', hfile⟩ := hold q e he
    exact hname' ▸ h.sole q e' he' name (hfile ▸ hname)
  · obtain ⟨f, hf, hname, -⟩ := hold q e he
    obtain ⟨f', hf', hname', -⟩ := hold q' e' he'
    exact h.alone q q' f f' hf hf' (hname.trans (heq.trans hname'.symm))

/-- The drafts of the others are not changed when names change that are not theirs. -/
theorem Staged.of_entries (h : s.Staged drafts) {s' : Files Name} (hdata : s'.data = s.data)
    (hnext : s'.next = s.next)
    (hkeep : ∀ q e, q ≠ pid → drafts q = some e → s'.entry e.name = s.entry e.name)
    (hfrom : ∀ name file, s'.entry name = some file → s.entry name = some file ∨
      ∃ old, s.entry old = some file ∧ ∀ q e, q ≠ pid → drafts q = some e → e.name ≠ old) :
    s'.Staged (Function.update drafts pid none) := by
  have hold : ∀ q e, Function.update drafts pid none q = some e → q ≠ pid ∧ drafts q = some e := by
    intro q e he
    rcases eq_or_ne q pid with rfl | hq
    · simp at he
    · exact ⟨hq, by rwa [Function.update_of_ne hq] at he⟩
  refine ⟨fun name file hfile => ?_, fun q e he => ?_, fun q e he => ?_, fun q e he name hname => ?_,
    (h.drop pid).alone⟩
  · rw [hnext]
    rcases hfrom name file hfile with hname | ⟨old, hname, -⟩
    · exact h.bounded name file hname
    · exact h.bounded old file hname
  · obtain ⟨hq, he⟩ := hold q e he
    rw [hkeep q e hq he, h.entry q e he]
  · obtain ⟨hq, he⟩ := hold q e he
    rw [hdata, h.data q e he]
  · obtain ⟨hq, he⟩ := hold q e he
    rcases hfrom name e.file hname with hname | ⟨old, hname, hother⟩
    · exact h.sole q e he name hname
    · exact absurd (h.sole q e he old hname).symm (hother q e hq he)

/-- The drafts of the others have other names. -/
theorem Staged.name_ne (h : s.Staged drafts) (hd : drafts pid = some d) {q : ℕ} {e : Draft Name}
    (hq : q ≠ pid) (he : drafts q = some e) : e.name ≠ d.name :=
  fun heq => hq (h.alone q pid e d he hd heq)

variable [DecidableEq Name]

/-- **A new draft**, under a name that nobody else prepares a file under. -/
theorem Staged.create (h : s.Staged drafts) {name : Name} (hsole : s.Sole name)
    (hfree : Undrafted (Function.update drafts pid none) name) :
    (s.create pid name).Staged (Function.update drafts pid (some ⟨name, s.fileOf name, []⟩)) := by
  have hnext : s.fileOf name < (s.create pid name).next :=
    lt_of_lt_of_le (Nat.lt_succ_self _) (le_max_right _ _)
  -- the drafts of the others are under other names
  have hother : ∀ q d, q ≠ pid → drafts q = some d → d.name ≠ name ∧ d.file ≠ s.fileOf name := by
    intro q d hq hd
    have hname : d.name ≠ name := hfree q d (by rwa [Function.update_of_ne hq])
    exact ⟨hname, ne_fileOf h.bounded hsole hname (h.entry q d hd)⟩
  have hentry : ∀ name', name' ≠ name → (s.create pid name).entry name' = s.entry name' :=
    fun name' hne => Function.update_of_ne hne _ _
  refine ⟨fun name' file hfile => ?_, fun q d hd => ?_, fun q d hd => ?_, fun q d hd name' hname' => ?_,
    fun q q' d d' hd hd' heq => ?_⟩
  · rcases eq_or_ne name' name with rfl | hne
    · obtain rfl : s.fileOf name' = file := by simpa [Files.create] using hfile
      exact hnext
    · rw [hentry name' hne] at hfile
      exact lt_of_lt_of_le (h.bounded name' file hfile) (le_max_left _ _)
  · rcases eq_or_ne q pid with rfl | hq
    · rw [Function.update_self] at hd
      obtain rfl := Option.some.inj hd
      exact Function.update_self _ _ _
    · rw [Function.update_of_ne hq] at hd
      rw [hentry d.name (hother q d hq hd).1, h.entry q d hd]
  · rcases eq_or_ne q pid with rfl | hq
    · rw [Function.update_self] at hd
      obtain rfl := Option.some.inj hd
      exact Function.update_self _ _ _
    · rw [Function.update_of_ne hq] at hd
      exact (Function.update_of_ne (hother q d hq hd).2 _ _).trans (h.data q d hd)
  · rcases eq_or_ne q pid with rfl | hq
    · rw [Function.update_self] at hd
      obtain rfl := Option.some.inj hd
      by_contra hne
      rw [hentry name' hne] at hname'
      exact ne_fileOf h.bounded hsole hne hname' rfl
    · rw [Function.update_of_ne hq] at hd
      obtain ⟨-, hfile⟩ := hother q d hq hd
      rcases eq_or_ne name' name with rfl | hne
      · exact absurd (by simpa [Files.create] using hname'.symm) hfile
      · rw [hentry name' hne] at hname'
        exact h.sole q d hd name' hname'
  · rcases eq_or_ne q pid with rfl | hq
    · rcases eq_or_ne q' q with rfl | hq'
      · rfl
      · rw [Function.update_self] at hd
        obtain rfl := Option.some.inj hd
        rw [Function.update_of_ne hq'] at hd'
        exact absurd heq.symm (hother q' d' hq' hd').1
    · rw [Function.update_of_ne hq] at hd
      rcases eq_or_ne q' pid with rfl | hq'
      · rw [Function.update_self] at hd'
        obtain rfl := Option.some.inj hd'
        exact absurd heq (hother q d hq hd).1
      · rw [Function.update_of_ne hq'] at hd'
        exact h.alone q q' d d' hd hd' heq

/-- **A draft is published** under another name. -/
theorem Staged.rename (h : s.Staged drafts) (hd : drafts pid = some d) {new : Name}
    (hne : new ≠ d.name) (hfree : Undrafted drafts new) :
    (s.rename d.name new).Staged (Function.update drafts pid none) ∧
      (s.rename d.name new).content new = some d.bytes ∧
        (s.rename d.name new).entry d.name = none := by
  have hentry := h.entry pid d hd
  have hdiffer : ¬ s.entry d.name = s.entry new := by
    rw [hentry]
    exact fun heq => h.entry_ne hd hne heq.symm
  have hrename : s.rename d.name new =
      { s with entry := Function.update (Function.update s.entry new (s.entry d.name)) d.name none } :=
    if_neg hdiffer
  refine ⟨?_, ?_, ?_⟩
  · refine h.of_entries (by rw [hrename]) (by rw [hrename]) (fun q e hq he => ?_)
      fun name file hfile => ?_
    · rw [hrename]
      exact (Function.update_of_ne (h.name_ne hd hq he) _ _).trans
        (Function.update_of_ne (hfree q e he) _ _)
    · rw [hrename] at hfile
      rcases eq_or_ne name d.name with rfl | hname
      · simp at hfile
      · simp only [Function.update_of_ne hname] at hfile
        rcases eq_or_ne name new with rfl | hnew
        · rw [Function.update_self] at hfile
          exact .inr ⟨d.name, hfile, fun q e hq he => h.name_ne hd hq he⟩
        · exact .inl (by rwa [Function.update_of_ne hnew] at hfile)
  · rw [hrename, content]
    simp only [Function.update_of_ne hne, Function.update_self, hentry, Option.map_some,
      h.data pid d hd]
  · rw [hrename]
    exact Function.update_self ..

/-- A draft gets a second name, and is not written any more. -/
theorem Staged.link (h : s.Staged drafts) (hd : drafts pid = some d) {new : Name}
    (hfree : Undrafted drafts new) :
    (s.link d.name new).Staged (Function.update drafts pid none) ∧
      (s.link d.name new).content new = some d.bytes := by
  constructor
  · refine h.of_entries rfl rfl (fun q e hq he => Function.update_of_ne (hfree q e he) _ _)
      fun name file hfile => ?_
    rcases eq_or_ne name new with rfl | hnew
    · simp only [Files.link, Function.update_self] at hfile
      exact .inr ⟨d.name, hfile, fun q e hq he => h.name_ne hd hq he⟩
    · exact .inl (by simpa [Files.link, Function.update_of_ne hnew] using hfile)
  · rw [content]
    simp only [Files.link, Function.update_self, h.entry pid d hd, Option.map_some, h.data pid d hd]

/-- A name is removed that no other process prepares a file under. -/
theorem Staged.remove (h : s.Staged drafts) {name : Name}
    (hfree : Undrafted (Function.update drafts pid none) name) :
    (s.remove name).Staged (Function.update drafts pid none) := by
  refine h.of_entries rfl rfl (fun q e hq he => ?_) fun name' file hfile => ?_
  · exact Function.update_of_ne (hfree q e (by rwa [Function.update_of_ne hq])) _ _
  · rcases eq_or_ne name' name with rfl | hne
    · simp [Files.remove] at hfile
    · exact .inl (by simpa [Files.remove, Function.update_of_ne hne] using hfile)

end Staged

/-! ### Opening a file -/

section Touch

variable [DecidableEq Name] {s : Files Name} {drafts : ℕ → Option (Draft Name)}

theorem lt_next_touch (name : Name) : s.next ≤ (s.touch name).next ∧ s.fileOf name < (s.touch name).next :=
  ⟨le_max_left _ _, lt_of_lt_of_le (Nat.lt_succ_self _) (le_max_right _ _)⟩

/-- The files that exist keep what they hold. -/
theorem data_touch (name : Name) {file : ℕ} (h : file < s.next) :
    (s.touch name).data file = s.data file := by
  by_cases hentry : s.entry name = none
  · simp only [touch, if_pos hentry]
    exact Function.update_of_ne (Nat.ne_of_lt h) _ _
  · simp only [touch, if_neg hentry]

theorem content_touch {name name' : Name} (hb : ∀ name file, s.entry name = some file → file < s.next)
    (hne : name' ≠ name) : (s.touch name).content name' = s.content name' := by
  have hentry : (s.touch name).entry name' = s.entry name' := Function.update_of_ne hne _ _
  rw [content, content, hentry]
  cases hfile : s.entry name' with
  | none => rfl
  | some file => rw [Option.map_some, Option.map_some, data_touch name (hb name' file hfile)]

/-- A file is opened that nobody prepares. -/
theorem Staged.touch (h : s.Staged drafts) {name : Name} (hfree : Undrafted drafts name) :
    (s.touch name).Staged drafts := by
  obtain ⟨hnext, hfileOf⟩ := lt_next_touch (s := s) name
  have hentry : ∀ name', name' ≠ name → (s.touch name).entry name' = s.entry name' :=
    fun name' hne => Function.update_of_ne hne _ _
  have hself : (s.touch name).entry name = some (s.fileOf name) := Function.update_self ..
  refine ⟨fun name' file hfile => ?_, fun q d hd => ?_, fun q d hd => ?_, fun q d hd name' hname' => ?_,
    h.alone⟩
  · rcases eq_or_ne name' name with rfl | hne
    · obtain rfl := Option.some.inj (hself.symm.trans hfile)
      exact hfileOf
    · rw [hentry name' hne] at hfile
      exact lt_of_lt_of_le (h.bounded name' file hfile) hnext
  · rw [hentry d.name (hfree q d hd), h.entry q d hd]
  · rw [data_touch name (h.bounded d.name d.file (h.entry q d hd)), h.data q d hd]
  · rcases eq_or_ne name' name with rfl | hne
    · have hfile : s.fileOf name' = d.file := Option.some.inj (hself.symm.trans hname')
      cases hold : s.entry name' with
      | none =>
        have hlast : s.fileOf name' = s.next := by rw [fileOf, hold, Option.getD_none]
        have hbound := h.bounded d.name d.file (h.entry q d hd)
        omega
      | some file =>
        have hsame : s.fileOf name' = file := by rw [fileOf, hold, Option.getD_some]
        exact h.sole q d hd name' (by rw [hold, ← hsame, hfile])
    · rw [hentry name' hne] at hname'
      exact h.sole q d hd name' hname'

end Touch

/-! ### One process alone -/

section Alone

variable [DecidableEq Name] (s : Files Name) (pid : ℕ) (name : Name) (bytes : List UInt8)

/-- The directory after a process has prepared a file. -/
def prepared : Files Name := (s.create pid name).store (s.fileOf name) bytes

/-- The directory after it has also published the file. -/
def published (new : Name) : Files Name :=
  ((s.prepared pid name bytes).rename name new).leave pid name

/-- Only this process prepares a file. -/
def oneDraft (d : Draft Name) : ℕ → Option (Draft Name) := Function.update (fun _ => none) pid (some d)

variable {s pid name bytes}

omit [DecidableEq Name] in
@[simp] theorem oneDraft_self (d : Draft Name) : oneDraft pid d pid = some d := Function.update_self ..

omit [DecidableEq Name] in
theorem undrafted_oneDraft {d : Draft Name} (hne : d.name ≠ name) :
    Undrafted (oneDraft pid d) name := by
  intro q e he
  rcases eq_or_ne q pid with rfl | hq
  · obtain rfl := Option.some.inj ((oneDraft_self d).symm.trans he)
    exact hne
  · simp [oneDraft, Function.update_of_ne hq] at he

theorem entry_prepared (s : Files Name) (pid : ℕ) (name : Name) (bytes : List UInt8) :
    (s.prepared pid name bytes).entry name ≠ none := by
  simp [prepared, store, create]

variable (hb : ∀ name file, s.entry name = some file → file < s.next) (hsole : s.Sole name)

include hb hsole

theorem staged_create (pid : ℕ) :
    (s.create pid name).Staged (oneDraft pid ⟨name, s.fileOf name, []⟩) := by
  refine (Staged.of_bounded hb).create hsole fun q d hd => ?_
  simp at hd

theorem staged_prepared (pid : ℕ) (bytes : List UInt8) :
    (s.prepared pid name bytes).Staged (oneDraft pid ⟨name, s.fileOf name, bytes⟩) := by
  have hstaged := (staged_create hb hsole pid).write (oneDraft_self _) bytes
  simpa [oneDraft, prepared] using hstaged

theorem content_prepared {name' : Name} (hne : name' ≠ name) :
    (s.prepared pid name bytes).content name' = s.content name' := by
  have hentry := (staged_create hb hsole pid).entry_ne (oneDraft_self _) hne
  rw [prepared, content_store bytes hentry, content_create pid hb hsole hne]

/-- What is published is what was prepared. -/
theorem content_published {new : Name} (hne : new ≠ name) :
    (s.published pid name bytes new).content new = some bytes := by
  have hstaged := staged_prepared hb hsole pid bytes
  obtain ⟨-, hcontent, -⟩ := hstaged.rename (oneDraft_self _) hne (undrafted_oneDraft hne.symm)
  exact hcontent

/-- After a publication the next one may begin. -/
theorem bounded_published {new : Name} (hne : new ≠ name) :
    (∀ name' file, (s.published pid name bytes new).entry name' = some file →
      file < (s.published pid name bytes new).next) ∧ (s.published pid name bytes new).Sole name := by
  have hstaged := staged_prepared hb hsole pid bytes
  obtain ⟨hpublished, -, hgone⟩ := hstaged.rename (oneDraft_self _) hne (undrafted_oneDraft hne.symm)
  exact ⟨hpublished.bounded, sole_of_none (s := s.published pid name bytes new) hgone⟩

/-- Another process creates the file again before it is published: what is published is empty. -/
theorem content_torn {q : ℕ} {new : Name} (hne : new ≠ name) :
    ((s.prepared pid name bytes).create q name).entry name ≠ none ∧
      (((s.prepared pid name bytes).create q name).rename name new).content new = some [] := by
  have hprepared := staged_prepared hb hsole pid bytes
  have hopened := staged_create hprepared.bounded (hprepared.sole_name (oneDraft_self _)) q
  obtain ⟨-, hcontent, -⟩ := hopened.rename (oneDraft_self _) hne (undrafted_oneDraft hne.symm)
  exact ⟨by simp [hopened.entry q _ (oneDraft_self _)], hcontent⟩

end Alone

end Files

end Wroid.Lib
