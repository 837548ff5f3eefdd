import Wroid.Lib.Files

/-!
# What a program ensures by itself

A program that is performed by one process alone, whatever its operations answer: each of them may
fail at any time.  `Ensures` says what holds of every result, and it is found along the text of the
program.

## Main definitions

* `Program.Ensures` — what holds of the results of a program and the states it leaves behind.
* `Files.Private` — every name has a file of its own.

## Main results

* `Ensures.bind`, `Ensures.mono` — the rules for the parts of a text.
* `Ensures.of_solo` — **what a program ensures holds of all its results**.
* `ensures_write` — writing an open file.
-/

namespace Wroid.Lib

variable {σ Op α β : Type} {Answer : Op → Type}

namespace Program

variable {Exec : σ → (op : Op) → Answer op → σ → Prop} {program : Program Op Answer α}
  {P Q : α → σ → Prop} {s : σ}

/-- Started in `s`, the program has only results with `Q`. -/
def Ensures (Exec : σ → (op : Op) → Answer op → σ → Prop) (Q : α → σ → Prop) :
    Program Op Answer α → σ → Prop
  | .done result, s => Q result s
  | .perform op next, s => ∀ answer s', Exec s op answer s' → (next answer).Ensures Exec Q s'

@[simp] theorem ensures_done {result : α} :
    (done result : Program Op Answer α).Ensures Exec Q s ↔ Q result s := Iff.rfl

@[simp] theorem ensures_perform {op : Op} {next : Answer op → Program Op Answer α} :
    (perform op next).Ensures Exec Q s ↔
      ∀ answer s', Exec s op answer s' → (next answer).Ensures Exec Q s' := Iff.rfl

theorem Ensures.mono (h : program.Ensures Exec P s) (hPQ : ∀ result s', P result s' → Q result s') :
    program.Ensures Exec Q s := by
  induction program generalizing s with
  | done result => exact hPQ _ _ h
  | perform op next ih =>
    intro answer s' hexec
    exact ih answer (h answer s' hexec)

/-- Fewer answers ensure more. -/
theorem Ensures.of_exec {Exec' : σ → (op : Op) → Answer op → σ → Prop}
    (h : program.Ensures Exec Q s) (hexec : ∀ s op answer s', Exec' s op answer s' → Exec s op answer s') :
    program.Ensures Exec' Q s := by
  induction program generalizing s with
  | done result => exact h
  | perform op next ih =>
    intro answer s' hperformed
    exact ih answer (h answer s' (hexec _ _ _ _ hperformed))

/-- The rule for a sequence. -/
theorem Ensures.bind {f : α → Program Op Answer β} {R : β → σ → Prop}
    (h : program.Ensures Exec P s) (hf : ∀ result s', P result s' → (f result).Ensures Exec R s') :
    (program >>= f).Ensures Exec R s := by
  induction program generalizing s with
  | done result => exact hf _ _ h
  | perform op next ih =>
    intro answer s' hexec
    exact ih answer (h answer s' hexec)

/-- **What a program ensures holds of all its results.** -/
theorem Ensures.of_solo {result : α} {s' : σ} (h : program.Ensures Exec Q s)
    (hsolo : Solo Exec program s (.done result) s') : Q result s' := by
  generalize hend : (done result : Program Op Answer α) = final at hsolo
  induction hsolo with
  | refl =>
    subst hend
    exact h
  | perform exec _ ih => exact ih (h _ _ exec) hend

end Program

/-! ### Files with one name each -/

namespace Files

variable {Name : Type} {s s' : Files Name} {name : Name}

/-- Every file has one name, and none is one that is yet to come. -/
structure Private (s : Files Name) : Prop where
  bounded : ∀ name file, s.entry name = some file → file < s.next
  sole : ∀ name, s.Sole name

theorem Private.of_eq (h : s.Private) (hentry : s'.entry = s.entry) (hnext : s'.next = s.next) :
    s'.Private where
  bounded name file hfile := by
    rw [hnext]
    exact h.bounded name file (hentry ▸ hfile)
  sole name := by
    intro file hfile name' hname'
    rw [hentry] at hfile hname'
    exact h.sole name file hfile name' hname'

variable [DecidableEq Name]

theorem Private.create (h : s.Private) (pid : ℕ) (name : Name) : (s.create pid name).Private where
  bounded name' file hfile := by
    rcases eq_or_ne name' name with rfl | hne
    · obtain rfl : s.fileOf name' = file := by simpa [Files.create] using hfile
      exact lt_max_of_lt_right (Nat.lt_succ_self _)
    · have hold : s.entry name' = some file := by
        simpa [Files.create, Function.update_of_ne hne] using hfile
      exact lt_max_of_lt_left (h.bounded name' file hold)
  sole name' := (h.sole name').create h.bounded pid (h.sole name)

theorem Private.content_create (h : s.Private) (pid : ℕ) (name : Name) :
    (s.create pid name).content = Function.update s.content name (some []) := by
  funext name'
  rcases eq_or_ne name' name with rfl | hne
  · simp [content, Files.create]
  · rw [Function.update_of_ne hne, Files.content_create pid h.bounded (h.sole name) hne]

/-- What is written to an open file is the content of its one name. -/
theorem Private.content_store (h : s.Private) {file : ℕ} (hentry : s.entry name = some file)
    (hempty : s.content name = some []) (bytes : List UInt8) :
    (s.store file bytes).content = Function.update s.content name (some bytes) := by
  have hdata : s.data file = [] := by simpa [content, hentry] using hempty
  funext name'
  rcases eq_or_ne name' name with rfl | hne
  · simp [content, store, hentry, hdata]
  · rw [Function.update_of_ne hne, Files.content_store]
    exact fun hname' => hne (h.sole name file hentry name' hname')

theorem Private.remove (h : s.Private) (name : Name) : (s.remove name).Private where
  bounded name' file hfile := by
    rcases eq_or_ne name' name with rfl | hne
    · simp at hfile
    · exact h.bounded name' file (by simpa [Files.remove, Function.update_of_ne hne] using hfile)
  sole name' := (h.sole name').remove name

theorem content_remove_eq (s : Files Name) (name : Name) :
    (s.remove name).content = Function.update s.content name none := by
  funext name'
  rcases eq_or_ne name' name with rfl | hne
  · simp
  · rw [Function.update_of_ne hne, Files.content_remove hne]

theorem Private.rename (h : s.Private) {old new : Name} (hold : s.entry old ≠ none) :
    (s.rename old new).Private ∧ (old ≠ new → (s.rename old new).content =
      Function.update (Function.update s.content new (s.content old)) old none) := by
  by_cases hsame : s.entry old = s.entry new
  · obtain ⟨file, hfile⟩ := Option.ne_none_iff_exists'.mp hold
    have heq : old = new := h.sole new file (hsame ▸ hfile) old hfile
    rw [Files.rename, if_pos hsame]
    exact ⟨h, fun hne => absurd heq hne⟩
  · have hne : old ≠ new := fun heq => hsame (heq ▸ rfl)
    rw [Files.rename, if_neg hsame]
    refine ⟨⟨?_, ?_⟩, fun _ => ?_⟩
    · intro name file hfile
      rcases eq_or_ne name old with rfl | hname
      · simp at hfile
      · simp only [Function.update_of_ne hname] at hfile
        rcases eq_or_ne name new with rfl | hname'
        · exact h.bounded old file (by simpa using hfile)
        · exact h.bounded name file (by rwa [Function.update_of_ne hname'] at hfile)
    · -- the file of the old name is that of the new one, all others are where they were
      intro name file hfile name' hname'
      have hof : ∀ n, Function.update (Function.update s.entry new (s.entry old)) old none n =
          some file → n ≠ old ∧ (n = new ∧ s.entry old = some file ∨ n ≠ new ∧ s.entry n = some file) := by
        intro n hn
        have hnold : n ≠ old := by
          rintro rfl
          simp at hn
        rw [Function.update_of_ne hnold] at hn
        rcases eq_or_ne n new with rfl | hnew
        · exact ⟨hnold, .inl ⟨rfl, by simpa using hn⟩⟩
        · exact ⟨hnold, .inr ⟨hnew, by rwa [Function.update_of_ne hnew] at hn⟩⟩
      obtain ⟨hnold, hn⟩ := hof name hfile
      obtain ⟨hnold', hn'⟩ := hof name' hname'
      rcases hn with ⟨rfl, hn⟩ | ⟨-, hn⟩ <;> rcases hn' with ⟨rfl, hn'⟩ | ⟨-, hn'⟩
      · rfl
      · exact absurd (h.sole old file hn name' hn') hnold'
      · exact absurd (h.sole old file hn' name hn) hnold
      · exact h.sole name file hn name' hn'
    · funext name
      rcases eq_or_ne name old with rfl | hname
      · simp [content]
      · rcases eq_or_ne name new with rfl | hname'
        · simp [content, Function.update_of_ne hname]
        · simp [content, Function.update_of_ne hname, Function.update_of_ne hname']

end Files

/-! ### Writing and copying -/

section Programs

variable {Name : Type} [DecidableEq Name] {pid : ℕ} {s : Files Name}

/-- `fs::write` -/
def fsWrite (name : Name) (bytes : List UInt8) : FileProgram Name (Except FileError Unit) := do
  match ← FileOp.call (.create name) with
  | .error error => return .error error
  | .ok file => FileOp.call (.write file bytes)

/-- `fs::copy`: the source has been opened before the target is emptied, and is read after that. -/
def fsCopy (source target : Name) : FileProgram Name (Except FileError Unit) := do
  match ← FileOp.call (.read source) with
  | .error error => return .error error
  | .ok _ =>
    match ← FileOp.call (.create target) with
    | .error error => return .error error
    | .ok file =>
      match ← FileOp.call (.read source) with
      | .error error => return .error error
      | .ok bytes => FileOp.call (.write file bytes)

/-- What becomes of the files when `name` is to hold `bytes`: it does, or nothing has changed, or
only a first part has been written. -/
def Files.Overwritten {ε : Type} (s : Files Name) (name : Name) (bytes : List UInt8)
    (result : Except ε Unit) (s' : Files Name) : Prop :=
  s'.Private ∧
    match result with
    | .ok _ => s'.content = Function.update s.content name (some bytes)
    | .error _ => s'.content = s.content ∨
      ∃ part, part <+: bytes ∧ s'.content = Function.update s.content name (some part)

/-- The file is empty and open, and then it is written. -/
theorem ensures_write {t : Files Name} {name : Name} {file : ℕ} (h : t.Private)
    (hentry : t.entry name = some file) (hcontent : t.content = Function.update s.content name (some []))
    (bytes : List UInt8) : (FileOp.call (.write file bytes)).Ensures (FileOp.Exec pid)
      (s.Overwritten name bytes) t := by
  have hempty : t.content name = some [] := by rw [hcontent, Function.update_self]
  have hstored : ∀ part, (t.store file part).content = Function.update s.content name (some part) := by
    intro part
    rw [h.content_store hentry hempty, hcontent, Function.update_idem]
  intro answer s' hexec
  cases answer with
  | ok result =>
    obtain rfl := hexec
    exact ⟨h.of_eq rfl rfl, hstored bytes⟩
  | error error =>
    obtain ⟨part, hpart, rfl⟩ := hexec
    exact ⟨h.of_eq rfl rfl, .inr ⟨part, hpart, hstored part⟩⟩

/-- **Writing a file.** -/
theorem ensures_fsWrite (h : s.Private) (name : Name) (bytes : List UInt8) :
    (fsWrite name bytes).Ensures (FileOp.Exec pid) (s.Overwritten name bytes) s := by
  intro answer s' hexec
  cases answer with
  | error error =>
    obtain rfl := hexec
    exact ⟨h, .inl rfl⟩
  | ok file =>
    obtain ⟨rfl, rfl⟩ := hexec
    exact ensures_write (h.create pid name) (Function.update_self ..) (h.content_create pid name) bytes

/-- **Copying a file to another one.** -/
theorem ensures_fsCopy (h : s.Private) {source target : Name} (hne : source ≠ target)
    {bytes : List UInt8} (hcontent : s.content source = some bytes) :
    (fsCopy source target).Ensures (FileOp.Exec pid) (s.Overwritten target bytes) s := by
  intro answer s₁ hexec₁
  cases answer with
  | error error =>
    obtain rfl := hexec₁.2
    exact ⟨h, .inl rfl⟩
  | ok bytes' =>
    obtain ⟨hsource, rfl⟩ := hexec₁
    obtain rfl := Option.some.inj (hcontent.symm.trans hsource)
    intro answer s₂ hexec₂
    cases answer with
    | error error =>
      obtain rfl := hexec₂
      exact ⟨h, .inl rfl⟩
    | ok file =>
      obtain ⟨rfl, rfl⟩ := hexec₂
      have hcreated := h.create pid target
      have hcontent := h.content_create pid target
      intro answer s₃ hexec₃
      cases answer with
      | error error =>
        obtain rfl := hexec₃.2
        exact ⟨hcreated, .inr ⟨[], List.nil_prefix, hcontent⟩⟩
      | ok bytes' =>
        obtain ⟨hsource', rfl⟩ := hexec₃
        rw [hcontent, Function.update_of_ne hne, hsource] at hsource'
        obtain rfl := Option.some.inj hsource'
        exact ensures_write hcreated (Function.update_self ..) hcontent bytes

/-- A file that is copied to itself is emptied. -/
theorem ensures_fsCopy_self (h : s.Private) (name : Name) :
    (fsCopy name name).Ensures (FileOp.Exec pid) (s.Overwritten name []) s := by
  intro answer s₁ hexec₁
  cases answer with
  | error error =>
    obtain rfl := hexec₁.2
    exact ⟨h, .inl rfl⟩
  | ok bytes =>
    obtain ⟨hsource, rfl⟩ := hexec₁
    intro answer s₂ hexec₂
    cases answer with
    | error error =>
      obtain rfl := hexec₂
      exact ⟨h, .inl rfl⟩
    | ok file =>
      obtain ⟨rfl, rfl⟩ := hexec₂
      have hcreated := h.create pid name
      have hcontent := h.content_create pid name
      intro answer s₃ hexec₃
      cases answer with
      | error error =>
        obtain rfl := hexec₃.2
        exact ⟨hcreated, .inr ⟨[], List.nil_prefix, hcontent⟩⟩
      | ok bytes' =>
        obtain ⟨hsource', rfl⟩ := hexec₃
        rw [hcontent, Function.update_self] at hsource'
        obtain rfl := Option.some.inj hsource'
        exact ensures_write hcreated (Function.update_self ..) hcontent []

end Programs

end Wroid.Lib
