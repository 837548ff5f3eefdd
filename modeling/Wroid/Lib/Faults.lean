import Wroid.Lib.Files

/-!
# Runs with given faults

A program that goes on by itself has one run for each answer its operations may give.  Here the
faults are given in advance, one for each operation that is to fail, and there is one run.

## Main definitions

* `Program.runWith` — the run of a program whose operations have determined answers.
* `FileOp.perform` — the answer of an operation, and the directory afterwards, with given faults.

## Main results

* `runWith_bind`, `runWith_embed` — the run of the parts of a program.
* `exec_perform`, `solo_runWith` — **such a run is one that the process may perform**.
-/

namespace Wroid.Lib

variable {σ Op α β : Type} {Answer : Op → Type}

/-! ### Programs -/

namespace Program

/-- The result of the program performed by itself, and the state it leaves behind. -/
def runWith (exec : σ → (op : Op) → Answer op × σ) : Program Op Answer α → σ → α × σ
  | .done result, s => (result, s)
  | .perform op next, s => (next (exec s op).1).runWith exec (exec s op).2

variable {exec : σ → (op : Op) → Answer op × σ}

@[simp] theorem runWith_done (result : α) (s : σ) :
    (done result : Program Op Answer α).runWith exec s = (result, s) := rfl

@[simp] theorem runWith_perform (op : Op) (next : Answer op → Program Op Answer α) (s : σ) :
    (perform op next).runWith exec s = (next (exec s op).1).runWith exec (exec s op).2 := rfl

@[simp] theorem runWith_call (op : Op) (s : σ) : (call op).runWith exec s = exec s op := rfl

@[simp] theorem runWith_bind (program : Program Op Answer α) (f : α → Program Op Answer β) (s : σ) :
    (program >>= f).runWith exec s =
      (f (program.runWith exec s).1).runWith exec (program.runWith exec s).2 := by
  induction program generalizing s with
  | done result => rfl
  | perform op next ih => exact ih _ _

/-- A program on a part of the state leaves the rest alone. -/
theorem runWith_embed {σ' Op' : Type} {Answer' : Op' → Type} {f : Op → Op'}
    {g : ∀ op, Answer' (f op) → Answer op} {exec' : σ' → (op : Op') → Answer' op × σ'}
    (get : σ' → σ) (put : σ → σ' → σ') (hget : ∀ s t, get (put s t) = s)
    (hput : ∀ s s' t, put s (put s' t) = put s t) (hself : ∀ t, put (get t) t = t)
    (hexec : ∀ t op, g op (exec' t (f op)).1 = (exec (get t) op).1 ∧
      (exec' t (f op)).2 = put (exec (get t) op).2 t)
    (program : Program Op Answer α) (t : σ') :
    (program.embed f g).runWith exec' t =
      ((program.runWith exec (get t)).1, put (program.runWith exec (get t)).2 t) := by
  induction program generalizing t with
  | done result =>
    rw [runWith_done, hself]
    rfl
  | perform op next ih =>
    rw [embed, runWith_perform, ih, (hexec t op).1, (hexec t op).2, hget, hput]
    rfl

end Program

/-- A process may perform its program the way its answers are determined. -/
theorem solo_runWith {Exec : σ → (op : Op) → Answer op → σ → Prop}
    {exec : σ → (op : Op) → Answer op × σ} (hexec : ∀ s op, Exec s op (exec s op).1 (exec s op).2)
    (program : Program Op Answer α) (s : σ) :
    Solo Exec program s (.done (program.runWith exec s).1) (program.runWith exec s).2 := by
  induction program generalizing s with
  | done result => exact .refl ..
  | perform op next ih => exact .perform (hexec s op) (ih _ _)

/-! ### Files -/

/-- Why an operation fails, and how much a write has written by then. -/
structure Fault where
  text : String
  written : ℕ

def Fault.error (fault : Fault) : FileError := .other fault.text

section Files

variable {Name : Type} [DecidableEq Name]

/-- The operation of the process `pid`, without a fault. -/
def FileOp.succeed (pid : ℕ) (s : Files Name) : (op : FileOp Name) → op.Answer × Files Name
  | .create name => (.ok (s.fileOf name), s.create pid name)
  | .createNew name =>
    if s.entry name = none then (.ok (s.fileOf name), s.create pid name)
    else (.error .alreadyExists, s)
  | .touch name => (.ok (), s.touch name)
  | .write file bytes => (.ok (), s.store file bytes)
  | .sync _ | .setPermissions _ | .createDirectory | .syncDirectory => (.ok (), s)
  | .rename old new =>
    if s.entry old = none then (.error .notFound, s) else (.ok (), (s.rename old new).leave pid old)
  | .link old new =>
    if s.entry new ≠ none then (.error .alreadyExists, s)
    else if s.entry old = none then (.error .notFound, s)
    else (.ok (), s.link old new)
  | .remove name =>
    if s.entry name = none then (.error .notFound, s.leave pid name)
    else (.ok (), (s.remove name).leave pid name)
  | .read name =>
    match s.content name with
    | some bytes => (.ok bytes, s)
    | none => (.error .notFound, s)
  | .present name => (decide (s.entry name ≠ none), s)
  | .lock name =>
    if s.holder name = none then (.ok (), s.setHolder name (some pid))
    else (.error (.other "Resource temporarily unavailable (os error 11)"), s)
  | .unlock name => ((), s.setHolder name none)

/-- The operation of the process `pid`, with a fault. -/
def FileOp.fail (fault : Fault) (pid : ℕ) (s : Files Name) :
    (op : FileOp Name) → op.Answer × Files Name
  | .create _ | .createNew _ => (.error fault.error, s)
  | .write file bytes => (.error fault.error, (s.store file (bytes.take fault.written)).giveUp pid)
  | .remove name => (.error fault.error, s.leave pid name)
  | .read _ => (.error fault.error, s)
  | .present _ => (false, s)
  | .unlock name => ((), s.setHolder name none)
  | .touch _ | .sync _ | .rename .. | .link .. | .setPermissions _ | .createDirectory
  | .syncDirectory | .lock _ => (.error fault.error, s)

/-- The operation of the process `pid`. -/
def FileOp.perform (faults : FileOp Name → Option Fault) (pid : ℕ) (s : Files Name)
    (op : FileOp Name) : op.Answer × Files Name :=
  match faults op with
  | none => op.succeed pid s
  | some fault => op.fail fault pid s

section Perform

variable {faults : FileOp Name → Option Fault} {pid : ℕ} {s : Files Name} {op : FileOp Name}

theorem perform_of_none (h : faults op = none) : op.perform faults pid s = op.succeed pid s := by
  rw [FileOp.perform, h]

theorem perform_of_some {fault : Fault} (h : faults op = some fault) :
    op.perform faults pid s = op.fail fault pid s := by
  rw [FileOp.perform, h]

end Perform

theorem exec_succeed (pid : ℕ) (s : Files Name) (op : FileOp Name) :
    FileOp.Exec pid s op (op.succeed pid s).1 (op.succeed pid s).2 := by
  cases op with
  | create name => exact ⟨rfl, rfl⟩
  | createNew name =>
    by_cases hentry : s.entry name = none
    · simp only [FileOp.succeed, if_pos hentry]
      exact ⟨hentry, rfl, rfl⟩
    · simp only [FileOp.succeed, if_neg hentry]
      rfl
  | rename old new =>
    by_cases hentry : s.entry old = none
    · simp only [FileOp.succeed, if_pos hentry]
      rfl
    · simp only [FileOp.succeed, if_neg hentry]
      exact ⟨hentry, rfl⟩
  | link old new =>
    by_cases hnew : s.entry new = none
    · by_cases hold : s.entry old = none
      · simp only [FileOp.succeed, hnew, if_pos hold]
        exact ⟨fun h => (by cases h), rfl⟩
      · simp only [FileOp.succeed, hnew, if_neg hold]
        exact ⟨hold, hnew, rfl⟩
    · simp only [FileOp.succeed, if_pos hnew]
      exact ⟨fun _ => hnew, rfl⟩
  | remove name =>
    by_cases hentry : s.entry name = none
    · simp only [FileOp.succeed, if_pos hentry]
      rfl
    · simp only [FileOp.succeed, if_neg hentry]
      rfl
  | read name =>
    cases hcontent : s.content name with
    | none =>
      simp only [FileOp.succeed, hcontent]
      exact ⟨fun _ => Files.content_eq_none.mp hcontent, rfl⟩
    | some bytes =>
      simp only [FileOp.succeed, hcontent]
      exact ⟨hcontent, rfl⟩
  | present name => exact ⟨of_decide_eq_true, rfl⟩
  | lock name =>
    by_cases hholder : s.holder name = none
    · simp only [FileOp.succeed, if_pos hholder]
      exact ⟨hholder, rfl⟩
    · simp only [FileOp.succeed, if_neg hholder]
      rfl
  | touch | write | sync | setPermissions | createDirectory | syncDirectory | unlock => rfl

theorem exec_fail (fault : Fault) (pid : ℕ) (s : Files Name) (op : FileOp Name) :
    FileOp.Exec pid s op (op.fail fault pid s).1 (op.fail fault pid s).2 := by
  cases op with
  | write file bytes => exact ⟨_, List.take_prefix _ _, rfl⟩
  | link old new => exact ⟨fun h => (by cases h), rfl⟩
  | read name => exact ⟨fun h => (by cases h), rfl⟩
  | present name => exact ⟨fun h => (by cases h), rfl⟩
  | create | createNew | touch | sync | rename | remove | setPermissions | createDirectory
  | syncDirectory | lock | unlock => rfl

/-- **What is determined is one of the things that may happen.** -/
theorem exec_perform (faults : FileOp Name → Option Fault) (pid : ℕ) (s : Files Name)
    (op : FileOp Name) :
    FileOp.Exec pid s op (op.perform faults pid s).1 (op.perform faults pid s).2 := by
  unfold FileOp.perform
  cases faults op with
  | none => exact exec_succeed pid s op
  | some fault => exact exec_fail fault pid s op

end Files

end Wroid.Lib
