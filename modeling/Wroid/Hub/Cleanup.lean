import Wroid.Hub.Requests
import Wroid.Hub.Sideload
import Wroid.Lib.Files

/-!
# Cleaning up after sideloads

When the hub starts it removes what old sideloads have left in their directory: `hub.rs` looks at
each file by itself and removes it when it has not been modified for a day.  The other parties are
the workers of installations, which outlive the hub, the requests of this and of other hubs, and
their cleanups.  Here they may change the directory in any way between two operations of the
cleanup.

A ticket has several files, and a file may be old while the ticket is at work.  So the cleanup
respects work in progress only if the files of a ticket that is being installed are young, and
nobody claims a ticket or removes a file that the cleanup is about to remove.

## Main definitions

* `isKnownSideloadFilename`, `cleanupStaleSideload` — the cleanup.
* `Directory.Busy` — a ticket is queued or being installed.
* `CleanupStep` — an operation of the cleanup, or any change by somebody else.
* `Respectful` — the cleanup has kept to its law so far.
* `Orderly` — a step at which nobody gets into the way of the cleanup.

## Main results

* `orderly_step` — what an orderly step leaves of the plans of the cleanup.
* `cleanup_respects_work` — **in a run of orderly steps the cleanup respects work in progress**.
-/

namespace Wroid.Cleanup

open Lib HubRequests

/-! ### Files -/

/-- When a file was modified, if the file system says so, and the status in it, if it is one. -/
structure Stored where
  modified : Option ℕ
  status : Option ApkStatus
  deriving DecidableEq

/-- The files by their names. -/
abbrev Directory := String → Option Stored

/-- A day, in seconds. -/
def SIDELOAD_RETENTION : ℕ := 24 * 60 * 60

/-- `str::strip_suffix` -/
def stripSuffix (suffix name : List Char) : Option (List Char) :=
  if suffix.isSuffixOf name then some (name.take (name.length - suffix.length)) else none

def isTicket (chars : List Char) : Bool := isValidSideloadTicket (.ofList chars)

def isKnownSideloadFilename (name : String) : Bool :=
  if [".apk", ".json", ".lock", ".upload"].any fun suffix =>
      (stripSuffix suffix.toList name.toList).any isTicket then true
  else
    let temporary := match name.toList with
      | '.' :: rest => stripSuffix ".tmp".toList rest
      | _ => none
    match temporary.bind (splitOnce '.') with
    | none => false
    | some (ticket, random) => isTicket ticket && isTicket random

/-- The package, the status and the lock of a ticket. -/
def ticketFiles (ticket : String) : List String :=
  [s!"{ticket}.apk", s!"{ticket}.json", s!"{ticket}.lock"]

/-- The status of the ticket says that it is queued or being installed. -/
def Directory.Busy (directory : Directory) (ticket : String) : Prop :=
  ∃ stored status, directory s!"{ticket}.json" = some stored ∧ stored.status = some status ∧
    (status.state = .queued ∨ status.state = .installing)

/-! ### Operations -/

inductive CleanupOp
  | secureDirectory
  | list
  | metadata (name : String)
  | remove (name : String)

@[reducible] def CleanupOp.Value : CleanupOp → Type
  | .secureDirectory | .remove _ => Unit
  | .list => List String
  | .metadata _ => Option ℕ

@[reducible] def CleanupOp.Answer (op : CleanupOp) : Type := Except FileError op.Value

/-- The effect of an operation.  Whatever can fail may fail at any time, but nobody says of a file
that is there that it is missing.  The names are read all at once. -/
def CleanupOp.Exec (directory : Directory) : (op : CleanupOp) → op.Answer → Directory → Prop
  | .secureDirectory, _, directory' => directory' = directory
  | .list, .ok names, directory' =>
    names.Nodup ∧ (∀ name, name ∈ names ↔ directory name ≠ none) ∧ directory' = directory
  | .list, .error _, directory' => directory' = directory
  | .metadata name, .ok modified, directory' =>
    (directory name).map Stored.modified = some modified ∧ directory' = directory
  | .metadata name, .error error, directory' =>
    (error = .notFound → directory name = none) ∧ directory' = directory
  | .remove name, .ok _, directory' =>
    directory name ≠ none ∧ directory' = Function.update directory name none
  | .remove name, .error error, directory' =>
    (error = .notFound → directory name = none) ∧ directory' = directory

abbrev CleanupProgram := Program CleanupOp CleanupOp.Answer (Except String Unit)

def CleanupOp.call (op : CleanupOp) : Program CleanupOp CleanupOp.Answer op.Answer := Program.call op

/-! ### The text -/

section Text

variable (path : String) (now : ℕ)

def removeStale (name : String) (rest : CleanupProgram) : CleanupProgram := do
  match ← CleanupOp.call (.remove name) with
  | .error _ => return .error s!"failed to remove stale sideload artifact {path}/{name}"
  | .ok _ => rest

/-- A file is stale when it was modified a day before the cleanup, or earlier. -/
def Stale (modified : Option ℕ) : Prop := SIDELOAD_RETENTION ≤ now - modified.getD 0

instance (modified : Option ℕ) : Decidable (Stale now modified) := inferInstanceAs (Decidable (_ ≤ _))

def visit (name : String) (rest : CleanupProgram) : CleanupProgram := do
  match ← CleanupOp.call (.metadata name) with
  | .error error => return .error error.text
  | .ok modified => if Stale now modified then removeStale path name rest else rest

def cleanupEntries : List String → CleanupProgram
  | [] => return .ok ()
  | name :: rest =>
    if isKnownSideloadFilename name then visit path now name (cleanupEntries rest)
    else cleanupEntries rest

def listEntries : CleanupProgram := do
  match ← CleanupOp.call .list with
  | .error error => return .error error.text
  | .ok names => cleanupEntries path now names

def cleanupStaleSideload : CleanupProgram := do
  match ← CleanupOp.call .secureDirectory with
  | .error error => return .error error.text
  | .ok _ => listEntries path now

end Text

/-! ### Runs -/

/-- An operation of the cleanup that was performed. -/
structure CleanupEvent where
  before : Directory
  op : CleanupOp
  answer : op.Answer

structure CleanupConfig where
  directory : Directory
  program : CleanupProgram
  history : List CleanupEvent

/-- The cleanup performs its next operation, or somebody else changes the directory. -/
inductive CleanupStep : CleanupConfig → CleanupConfig → Prop
  | perform {directory directory' : Directory} {op : CleanupOp} {next : op.Answer → CleanupProgram}
      {answer : op.Answer} {history : List CleanupEvent} (exec : op.Exec directory answer directory') :
      CleanupStep ⟨directory, .perform op next, history⟩
        ⟨directory', next answer, ⟨directory, op, answer⟩ :: history⟩
  | others {directory directory' : Directory} {program : CleanupProgram}
      {history : List CleanupEvent} :
      CleanupStep ⟨directory, program, history⟩ ⟨directory', program, history⟩

def starting (path : String) (now : ℕ) (directory : Directory) : CleanupConfig :=
  ⟨directory, cleanupStaleSideload path now, []⟩

/-! ### The law -/

/-- The event has removed a file of the name. -/
def CleanupEvent.Removes (event : CleanupEvent) (name : String) : Prop :=
  event.op = .remove name ∧ ∃ done, event.answer = .ok done

/-- The reason why the operation has failed. -/
def CleanupEvent.failure (event : CleanupEvent) : Option FileError :=
  match event.answer with
  | .ok _ => none
  | .error error => some error

/-- The operation was on a file by its name. -/
def CleanupEvent.OnFile (event : CleanupEvent) : Prop :=
  ∃ name, event.op = .metadata name ∨ event.op = .remove name

/-- The cleanup has removed no file of a ticket at work, and if it has ended with an error then
not because a file was missing. -/
structure Respectful (c : CleanupConfig) : Prop where
  busy : ∀ event ∈ c.history, ∀ name, event.Removes name → ∀ ticket, name ∈ ticketFiles ticket →
    ¬ event.before.Busy ticket
  error : ∀ message, c.program = .done (.error message) → ∃ event ∈ c.history, ∃ failure,
    event.failure = some failure ∧ ¬ (event.OnFile ∧ failure = .notFound)

section Order

variable (path : String) (now : ℕ)

/-- The names that the cleanup will still look at or remove. -/
def Plans (program : CleanupProgram) (names : List String) : Prop :=
  program = cleanupEntries path now names ∨ ∃ name rest, names = name :: rest ∧
    program = removeStale path name (cleanupEntries path now rest)

/-- A step at which nobody gets into the way of the cleanup. -/
structure Orderly (c c' : CleanupConfig) : Prop where
  /-- The files of a ticket at work are young when the cleanup looks at them. -/
  young : ∀ name rest, c.program = visit path now name rest → ∀ ticket, name ∈ ticketFiles ticket →
    c.directory.Busy ticket → ∀ stored, c.directory name = some stored → ¬ Stale now stored.modified
  /-- Nobody else puts a ticket to work while the cleanup is about to remove a file of it. -/
  unclaimed : c'.history = c.history → ∀ name rest, c.program = removeStale path name rest →
    ∀ ticket, name ∈ ticketFiles ticket → c'.directory.Busy ticket → c.directory.Busy ticket
  /-- Nobody else removes a file that the cleanup will still look at or remove. -/
  kept : c'.history = c.history → ∀ names, Plans path now c.program names → ∀ name ∈ names,
    isKnownSideloadFilename name = true → c.directory name ≠ none → c'.directory name ≠ none

/-- A run of orderly steps. -/
def OrderlyRun : CleanupConfig → CleanupConfig → Prop :=
  Relation.ReflTransGen fun c c' => CleanupStep c c' ∧ Orderly path now c c'

end Order

/-! ### The plans of the cleanup -/

/-- The files the cleanup knows and will still look at are there, and it will look at each once. -/
structure Ahead (directory : Directory) (names : List String) : Prop where
  nodup : names.Nodup
  there : ∀ name ∈ names, isKnownSideloadFilename name = true → directory name ≠ none

/-- Where the cleanup is in its text, and what it relies on there. -/
inductive Plan (path : String) (now : ℕ) (directory : Directory) : CleanupProgram → Prop
  | start : Plan path now directory (cleanupStaleSideload path now)
  | listing : Plan path now directory (listEntries path now)
  | entries {names : List String} (ahead : Ahead directory names) :
      Plan path now directory (cleanupEntries path now names)
  | removing {name : String} {rest : List String} (ahead : Ahead directory (name :: rest))
      (known : isKnownSideloadFilename name = true)
      (idle : ∀ ticket, name ∈ ticketFiles ticket → ¬ directory.Busy ticket) :
      Plan path now directory (removeStale path name (cleanupEntries path now rest))
  | ended (message : String) : Plan path now directory (.done (.error message))

/-- The event keeps to the law, when the cleanup goes on with the program. -/
structure Lawful (event : CleanupEvent) (program : CleanupProgram) : Prop where
  busy : ∀ name, event.Removes name → ∀ ticket, name ∈ ticketFiles ticket →
    ¬ event.before.Busy ticket
  error : ∀ message, program = .done (.error message) → ∃ failure, event.failure = some failure ∧
    ¬ (event.OnFile ∧ failure = .notFound)

section Steps

variable {path : String} {now : ℕ} {directory directory' : Directory} {op : CleanupOp}
  {next : op.Answer → CleanupProgram} {answer : op.Answer}

theorem cleanupEntries_known {name : String} {rest : List String}
    (h : isKnownSideloadFilename name = true) : cleanupEntries path now (name :: rest) =
      visit path now name (cleanupEntries path now rest) := if_pos h

theorem cleanupEntries_unknown {name : String} {rest : List String}
    (h : isKnownSideloadFilename name ≠ true) :
    cleanupEntries path now (name :: rest) = cleanupEntries path now rest := if_neg h

/-- The cleanup does not give up by itself. -/
theorem cleanupEntries_ne_error (names : List String) (message : String) :
    cleanupEntries path now names ≠ .done (.error message) := by
  induction names with
  | nil =>
    intro h
    cases h
  | cons name rest ih =>
    by_cases hknown : isKnownSideloadFilename name = true
    · rw [cleanupEntries_known hknown]
      intro h
      cases h
    · rwa [cleanupEntries_unknown hknown]

theorem Ahead.tail {name : String} {rest : List String} (h : Ahead directory (name :: rest)) :
    Ahead directory rest :=
  ⟨(List.nodup_cons.mp h.nodup).2, fun n hn => h.there n (List.mem_cons_of_mem name hn)⟩

/-- A failure that is not about a missing file. -/
theorem lawful_of_failure {error : FileError} (hanswer : answer = .error error)
    (hfound : (∃ name, op = .metadata name ∨ op = .remove name) → error ≠ .notFound)
    (program : CleanupProgram) : Lawful ⟨directory, op, answer⟩ program := by
  subst hanswer
  refine ⟨fun name hremoves => ?_, fun message _ => ⟨error, rfl, fun h => hfound h.1 h.2⟩⟩
  obtain ⟨-, done, hdone⟩ := hremoves
  cases hdone

/-- An operation that removes nothing, and is not the last one. -/
theorem lawful_of_quiet {program : CleanupProgram} (hop : ∀ name, op ≠ .remove name)
    (hprogram : ∀ message, program ≠ .done (.error message)) :
    Lawful ⟨directory, op, answer⟩ program :=
  ⟨fun name hremoves => absurd hremoves.1 (hop name), fun message h => absurd h (hprogram message)⟩

/-- A look at a file. -/
theorem visit_step {name : String} {rest : List String} (hahead : Ahead directory (name :: rest))
    (hknown : isKnownSideloadFilename name = true)
    (hyoung : ∀ ticket, name ∈ ticketFiles ticket → directory.Busy ticket → ∀ stored,
      directory name = some stored → ¬ Stale now stored.modified)
    (hprogram : visit path now name (cleanupEntries path now rest) = .perform op next)
    (exec : op.Exec directory answer directory') :
    Plan path now directory' (next answer) ∧ Lawful ⟨directory, op, answer⟩ (next answer) := by
  cases hprogram
  cases answer with
  | error error =>
    obtain ⟨hmissing, rfl⟩ := exec
    have hthere := hahead.there name List.mem_cons_self hknown
    exact ⟨.ended error.text, lawful_of_failure rfl (fun _ h => hthere (hmissing h)) _⟩
  | ok modified =>
    obtain ⟨hmodified, rfl⟩ := exec
    obtain ⟨stored, hstored, rfl⟩ := Option.map_eq_some_iff.mp hmodified
    change Plan path now directory' (if Stale now stored.modified then
        removeStale path name (cleanupEntries path now rest) else cleanupEntries path now rest) ∧
      Lawful _ (if Stale now stored.modified then
        removeStale path name (cleanupEntries path now rest) else cleanupEntries path now rest)
    by_cases hstale : Stale now stored.modified
    · rw [if_pos hstale]
      refine ⟨.removing hahead hknown ?_, lawful_of_quiet ?_ ?_⟩
      · exact fun ticket hticket hbusy => hyoung ticket hticket hbusy stored hstored hstale
      · exact fun _ h => by cases h
      · exact fun _ h => by cases h
    · rw [if_neg hstale]
      refine ⟨.entries hahead.tail, lawful_of_quiet ?_ (cleanupEntries_ne_error rest)⟩
      exact fun _ h => by cases h

/-- A removal. -/
theorem remove_step {name : String} {rest : List String} (hahead : Ahead directory (name :: rest))
    (hknown : isKnownSideloadFilename name = true)
    (hidle : ∀ ticket, name ∈ ticketFiles ticket → ¬ directory.Busy ticket)
    (hprogram : removeStale path name (cleanupEntries path now rest) = .perform op next)
    (exec : op.Exec directory answer directory') :
    Plan path now directory' (next answer) ∧ Lawful ⟨directory, op, answer⟩ (next answer) := by
  cases hprogram
  cases answer with
  | error error =>
    obtain ⟨hmissing, rfl⟩ := exec
    have hthere := hahead.there name List.mem_cons_self hknown
    exact ⟨.ended _, lawful_of_failure rfl (fun _ h => hthere (hmissing h)) _⟩
  | ok done =>
    obtain ⟨-, rfl⟩ := exec
    have hrest : Ahead (Function.update directory name none) rest := by
      refine ⟨hahead.tail.nodup, fun n hn hknown' => ?_⟩
      have hne : n ≠ name := fun h => (List.nodup_cons.mp hahead.nodup).1 (h ▸ hn)
      rw [Function.update_of_ne hne]
      exact hahead.tail.there n hn hknown'
    refine ⟨.entries hrest, ?_, fun message h => absurd h (cleanupEntries_ne_error rest message)⟩
    intro removed hremoves
    obtain rfl : name = removed := by
      obtain ⟨hop, -⟩ := hremoves
      cases hop
      rfl
    exact hidle

theorem start_step (hprogram : cleanupStaleSideload path now = .perform op next)
    (exec : op.Exec directory answer directory') :
    Plan path now directory' (next answer) ∧ Lawful ⟨directory, op, answer⟩ (next answer) := by
  cases hprogram
  cases answer with
  | error error =>
    refine ⟨.ended error.text, lawful_of_failure rfl ?_ _⟩
    rintro ⟨name, h | h⟩
    · cases h
    · cases h
  | ok _ =>
    refine ⟨.listing, lawful_of_quiet ?_ ?_⟩
    · exact fun _ h => by cases h
    · exact fun _ h => by cases h

theorem listing_step (hprogram : listEntries path now = .perform op next)
    (exec : op.Exec directory answer directory') :
    Plan path now directory' (next answer) ∧ Lawful ⟨directory, op, answer⟩ (next answer) := by
  cases hprogram
  cases answer with
  | error error =>
    refine ⟨.ended error.text, lawful_of_failure rfl ?_ _⟩
    rintro ⟨name, h | h⟩
    · cases h
    · cases h
  | ok names =>
    obtain ⟨hnodup, hnames, rfl⟩ := exec
    refine ⟨.entries ⟨hnodup, fun name hname _ => (hnames name).mp hname⟩, ?_⟩
    refine lawful_of_quiet ?_ (cleanupEntries_ne_error names)
    exact fun _ h => by cases h

theorem entries_step {names : List String} (hahead : Ahead directory names)
    (hyoung : ∀ name rest, cleanupEntries path now names = visit path now name rest →
      ∀ ticket, name ∈ ticketFiles ticket → directory.Busy ticket → ∀ stored,
        directory name = some stored → ¬ Stale now stored.modified)
    (hprogram : cleanupEntries path now names = .perform op next)
    (exec : op.Exec directory answer directory') :
    Plan path now directory' (next answer) ∧ Lawful ⟨directory, op, answer⟩ (next answer) := by
  induction names with
  | nil => cases hprogram
  | cons name rest ih =>
    by_cases hknown : isKnownSideloadFilename name = true
    · rw [cleanupEntries_known hknown] at hprogram
      exact visit_step hahead hknown (hyoung name _ (cleanupEntries_known hknown)) hprogram exec
    · rw [cleanupEntries_unknown hknown] at hyoung hprogram
      exact ih hahead.tail hyoung hprogram

end Steps

/-- **What an orderly step leaves of the plans of the cleanup.** -/
theorem orderly_step {path : String} {now : ℕ} {c c' : CleanupConfig} (hstep : CleanupStep c c')
    (horderly : Orderly path now c c') (hplan : Plan path now c.directory c.program)
    (hlaw : Respectful c) : Plan path now c'.directory c'.program ∧ Respectful c' := by
  cases hstep with
  | @others directory directory' program history =>
    refine ⟨?_, hlaw.busy, hlaw.error⟩
    have hkept := horderly.kept rfl
    have hunclaimed := horderly.unclaimed rfl
    simp only at hplan hkept hunclaimed ⊢
    cases hplan with
    | start => exact .start
    | listing => exact .listing
    | ended message => exact .ended message
    | @entries names ahead =>
      refine .entries ⟨ahead.nodup, fun name hname hknown => ?_⟩
      exact hkept names (.inl rfl) name hname hknown (ahead.there name hname hknown)
    | @removing name rest ahead known idle =>
      refine .removing ⟨ahead.nodup, fun n hn hknown => ?_⟩ known fun ticket hticket hbusy => ?_
      · exact hkept (name :: rest) (.inr ⟨name, rest, rfl, rfl⟩) n hn hknown (ahead.there n hn hknown)
      · exact idle ticket hticket (hunclaimed name _ rfl ticket hticket hbusy)
  | @perform directory directory' op next answer history exec =>
    have hyoung := horderly.young
    have hnext : Plan path now directory' (next answer) ∧
        Lawful ⟨directory, op, answer⟩ (next answer) := by
      simp only at hplan hyoung
      generalize hprogram : Program.perform op next = program at hplan hyoung
      cases hplan with
      | start => exact start_step hprogram.symm exec
      | listing => exact listing_step hprogram.symm exec
      | entries ahead => exact entries_step ahead hyoung hprogram.symm exec
      | removing ahead known idle => exact remove_step ahead known idle hprogram.symm exec
      | ended message => cases hprogram
    obtain ⟨hplan', hlawful⟩ := hnext
    refine ⟨hplan', fun event hevent => ?_, fun message h => ?_⟩
    · rcases List.mem_cons.mp hevent with rfl | hevent
      · exact hlawful.busy
      · exact hlaw.busy event hevent
    · obtain ⟨failure, hfailure, hother⟩ := hlawful.error message h
      exact ⟨_, List.mem_cons_self, failure, hfailure, hother⟩

/-- **In a run of orderly steps the cleanup respects work in progress.** -/
theorem cleanup_respects_work {path : String} {now : ℕ} {directory : Directory} {c : CleanupConfig}
    (hrun : OrderlyRun path now (starting path now directory) c) : Respectful c := by
  suffices h : Plan path now c.directory c.program ∧ Respectful c from h.2
  induction hrun with
  | refl =>
    refine ⟨.start, fun event hevent => absurd hevent List.not_mem_nil, fun message h => ?_⟩
    cases h
  | tail _ hstep ih => exact orderly_step hstep.1 hstep.2 ih.1 ih.2

/-! ### Disturbed work -/

section Samples

variable {path : String} {now : ℕ} {directory : Directory} {history : List CleanupEvent}

/-- Any number of steps. -/
abbrev CleanupRun : CleanupConfig → CleanupConfig → Prop := Relation.ReflTransGen CleanupStep

theorem step_secure : CleanupStep (starting path now directory)
    ⟨directory, listEntries path now, [⟨directory, .secureDirectory, .ok ()⟩]⟩ := by
  have hexec : CleanupOp.Exec directory .secureDirectory (.ok ()) directory := rfl
  exact .perform hexec

/-- The cleanup reads the names. -/
theorem step_list {names : List String} (hnodup : names.Nodup)
    (hnames : ∀ name, name ∈ names ↔ directory name ≠ none) :
    CleanupStep ⟨directory, listEntries path now, history⟩
      ⟨directory, cleanupEntries path now names, ⟨directory, .list, .ok names⟩ :: history⟩ := by
  have hexec : CleanupOp.Exec directory .list (.ok names) directory := ⟨hnodup, hnames, rfl⟩
  exact .perform hexec

/-- The cleanup looks at a file. -/
theorem step_look {name : String} {rest : List String} {stored : Stored}
    (hknown : isKnownSideloadFilename name = true) (hstored : directory name = some stored) :
    CleanupStep ⟨directory, cleanupEntries path now (name :: rest), history⟩
      ⟨directory, if Stale now stored.modified then
          removeStale path name (cleanupEntries path now rest) else cleanupEntries path now rest,
        ⟨directory, .metadata name, .ok stored.modified⟩ :: history⟩ := by
  have hexec : CleanupOp.Exec directory (.metadata name) (.ok stored.modified) directory :=
    ⟨by rw [hstored]; rfl, rfl⟩
  rw [cleanupEntries_known hknown]
  exact .perform hexec

/-- The cleanup removes it. -/
theorem step_remove {name : String} {rest : CleanupProgram} (hthere : directory name ≠ none) :
    CleanupStep ⟨directory, removeStale path name rest, history⟩
      ⟨Function.update directory name none, rest, ⟨directory, .remove name, .ok ()⟩ :: history⟩ := by
  have hexec : CleanupOp.Exec directory (.remove name) (.ok ()) (Function.update directory name none) :=
    ⟨hthere, rfl⟩
  exact .perform hexec

/-- The file is gone when the cleanup looks at it. -/
theorem step_missing {name : String} {rest : List String}
    (hknown : isKnownSideloadFilename name = true) (hmissing : directory name = none) :
    CleanupStep ⟨directory, cleanupEntries path now (name :: rest), history⟩
      ⟨directory, .done (.error FileError.notFound.text),
        ⟨directory, .metadata name, .error .notFound⟩ :: history⟩ := by
  have hexec : CleanupOp.Exec directory (.metadata name) (.error .notFound) directory :=
    ⟨fun _ => hmissing, rfl⟩
  rw [cleanupEntries_known hknown]
  exact .perform hexec

end Samples

def sampleTicket : String := "0123456789abcdef0123456789abcdef0123456789abcdef"

def samplePackage : String := s!"{sampleTicket}.apk"

def sampleStatus : String := s!"{sampleTicket}.json"

/-- A package that was uploaded and inspected, and, a day later, queued for installation. -/
def queuedDirectory : Directory := fun name =>
  if name = samplePackage then some ⟨some 0, none⟩
  else if name = sampleStatus then some ⟨some 86000, some ⟨.queued, "Install worker queued", 86000⟩⟩
  else none

theorem mem_queuedDirectory (name : String) :
    name ∈ [samplePackage, sampleStatus] ↔ queuedDirectory name ≠ none := by
  unfold queuedDirectory
  split_ifs with hpackage hstatus
  · simp [hpackage]
  · simp [hstatus]
  · simp [hpackage, hstatus]

theorem known_samplePackage : isKnownSideloadFilename samplePackage = true := by decide +kernel

/-- What has happened when the names have been read. -/
def listedHistory : List CleanupEvent :=
  [⟨queuedDirectory, .list, .ok [samplePackage, sampleStatus]⟩,
    ⟨queuedDirectory, .secureDirectory, .ok ()⟩]

/-- The cleanup with the names in its hands. -/
def listed (now : ℕ) : CleanupConfig :=
  ⟨queuedDirectory, cleanupEntries "/sideload" now [samplePackage, sampleStatus], listedHistory⟩

theorem step_listed (now : ℕ) : CleanupStep ⟨queuedDirectory, listEntries "/sideload" now,
    [⟨queuedDirectory, .secureDirectory, .ok ()⟩]⟩ (listed now) :=
  step_list (by decide +kernel) mem_queuedDirectory

theorem run_listed (now : ℕ) : CleanupRun (starting "/sideload" now queuedDirectory) (listed now) :=
  (Relation.ReflTransGen.single step_secure).tail (step_listed now)

theorem sample_package : queuedDirectory samplePackage = some ⟨some 0, none⟩ := if_pos rfl

/-- The cleanup is in nobody's way while all files are young. -/
theorem orderly_of_young {path : String} {now : ℕ} {c c' : CleanupConfig}
    (hyoung : ∀ name stored, c.directory name = some stored → ¬ Stale now stored.modified)
    (hhistory : c'.history ≠ c.history) : Orderly path now c c' :=
  ⟨fun name _ _ _ _ _ stored hstored => hyoung name stored hstored,
    fun h => absurd h hhistory, fun h => absurd h hhistory⟩

/-- Before the package is a day old the cleanup leaves the queued ticket alone. -/
theorem cleanup_respects_work_young : Respectful ⟨queuedDirectory,
    cleanupEntries "/sideload" 86399 [sampleStatus],
    ⟨queuedDirectory, .metadata samplePackage, .ok (some 0)⟩ :: listedHistory⟩ := by
  have hyoung : ∀ name stored, queuedDirectory name = some stored →
      ¬ Stale 86399 stored.modified := by
    intro name stored hstored
    unfold queuedDirectory at hstored
    split_ifs at hstored
    · obtain rfl := Option.some.inj hstored
      decide
    · obtain rfl := Option.some.inj hstored
      decide
  have hlook : CleanupStep (listed 86399) _ := step_look known_samplePackage sample_package
  rw [if_neg (hyoung _ _ sample_package)] at hlook
  exact cleanup_respects_work (((Relation.ReflTransGen.single
    ⟨step_secure, orderly_of_young hyoung (by simp [starting])⟩).tail
    ⟨step_listed 86399, orderly_of_young hyoung (by simp [listed, listedHistory])⟩).tail
    ⟨hlook, orderly_of_young hyoung (by simp [listed])⟩)

/-- The package of a queued ticket is removed when it is a day old. -/
theorem old_package_is_removed : ∃ c, CleanupRun (starting "/sideload" 86400 queuedDirectory) c ∧
    ¬ Respectful c := by
  have hlook : CleanupStep (listed 86400) _ := step_look known_samplePackage sample_package
  rw [if_pos (by decide)] at hlook
  have hthere : queuedDirectory samplePackage ≠ none := by
    rw [sample_package]
    simp
  refine ⟨_, ((run_listed 86400).tail hlook).tail (step_remove hthere), fun h => ?_⟩
  have hbusy : queuedDirectory.Busy sampleTicket := by
    refine ⟨⟨some 86000, some ⟨.queued, "Install worker queued", 86000⟩⟩, _, ?_, rfl, .inl rfl⟩
    decide +kernel
  exact h.busy _ List.mem_cons_self samplePackage ⟨rfl, (), rfl⟩ sampleTicket
    List.mem_cons_self hbusy

/-- A file that somebody else has removed since the names were read ends the cleanup. -/
theorem vanished_file_is_an_error : ∃ c, CleanupRun (starting "/sideload" 0 queuedDirectory) c ∧
    c.program = .done (.error "No such file or directory (os error 2)") ∧ ¬ Respectful c := by
  have hothers : CleanupStep (listed 0) ⟨fun _ => none, (listed 0).program, listedHistory⟩ := .others
  refine ⟨_, ((run_listed 0).tail hothers).tail (step_missing known_samplePackage rfl), rfl,
    fun h => ?_⟩
  obtain ⟨event, hevent, failure, hfailure, hother⟩ := h.error _ rfl
  rcases List.mem_cons.mp hevent with rfl | hevent
  · obtain rfl := Option.some.inj hfailure
    exact hother ⟨⟨samplePackage, .inl rfl⟩, rfl⟩
  · rcases List.mem_cons.mp hevent with rfl | hevent
    · cases hfailure
    · obtain rfl := List.mem_singleton.mp hevent
      cases hfailure

end Wroid.Cleanup
