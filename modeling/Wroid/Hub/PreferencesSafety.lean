import Wroid.Hub.Preferences

/-!
# Updates of the preferences follow one another

Whatever calls there are and however their steps interleave, the file is what the patches make of
it one after another, in the order in which the calls have renamed their files: the lock is held
from the reading of the file to the renaming.  A file that was renamed is not written any more, so
that whoever has opened it reads the whole of it.

A call that has replaced the file may still fail, when the directory cannot be brought to the disk.

## Main definitions

* `sequentially`, `Results` — what patches make of the preferences, and of the file.
* `Linearizes` — the calls are explained by an order of their patches.
* `Role`, `discipline`, `Invariant` — what a call knows and may do.

## Main results

* `updates_are_linearizable` — **calls are explained by an order, in every run in which no call
  fails after it has replaced the file**.
* `unsynced_update_is_applied` — a call that fails after that.
-/

namespace Wroid.Preferences

open Lib

/-! ### Patches one after another -/

/-- What a patch makes of the preferences. -/
def patched (preferences : UserPreferences) (patch : PreferencesPatch) :
    Except String UserPreferences :=
  match validate (patch.apply preferences) with
  | .error error => .error error
  | .ok _ => .ok (patch.apply preferences)

/-- What a reader of the file finds. -/
def found : Option (List UInt8) → Except FileError (List UInt8)
  | none => .error .notFound
  | some bytes => .ok bytes

section Sequential

variable (directory : String) (stored : Option (List UInt8))

/-- The patches applied one after another to the preferences that are stored. -/
def sequentially (patches : List PreferencesPatch) : Except String UserPreferences :=
  loaded directory (found stored) >>= fun preferences => patches.foldlM patched preferences

/-- The file after the patches. -/
def Results (patches : List PreferencesPatch) (content : Option (List UInt8)) : Prop :=
  if patches = [] then content = stored
  else ∃ preferences, sequentially directory stored patches = .ok preferences ∧
    content = some (preferencesText preferences)

variable {directory stored} {patches : List PreferencesPatch} {patch : PreferencesPatch}
  {preferences after : UserPreferences} {content : Option (List UInt8)}

theorem patched_eq_ok : patched preferences patch = .ok after ↔
    patch.apply preferences = after ∧ validate after = .ok () := by
  unfold patched
  cases hvalid : validate (patch.apply preferences) with
  | error error =>
    constructor
    · intro h
      cases h
    · rintro ⟨rfl, h⟩
      rw [h] at hvalid
      cases hvalid
  | ok u =>
    constructor
    · intro h
      obtain rfl := Except.ok.inj h
      exact ⟨rfl, hvalid⟩
    · rintro ⟨rfl, -⟩
      rfl

theorem sequentially_concat : sequentially directory stored (patches ++ [patch]) =
    sequentially directory stored patches >>= fun preferences => patched preferences patch := by
  unfold sequentially
  rw [bind_assoc]
  congr 1
  funext preferences
  rw [List.foldlM_append]
  congr 1
  funext between
  exact bind_pure _

theorem sequentially_concat_eq_ok :
    sequentially directory stored (patches ++ [patch]) = .ok after ↔ ∃ preferences,
      sequentially directory stored patches = .ok preferences ∧ patched preferences patch = .ok after := by
  rw [sequentially_concat]
  cases sequentially directory stored patches with
  | error error => simp [bind, Except.bind]
  | ok preferences => simp [bind, Except.bind]

/-- What a patch has left is valid. -/
theorem validate_of_sequentially (hne : patches ≠ [])
    (h : sequentially directory stored patches = .ok preferences) : validate preferences = .ok () := by
  rcases List.eq_nil_or_concat patches with rfl | ⟨earlier, patch, rfl⟩
  · exact absurd rfl hne
  · rw [List.concat_eq_append] at h
    obtain ⟨between, -, hpatched⟩ := sequentially_concat_eq_ok.mp h
    exact (patched_eq_ok.mp hpatched).2

theorem schemaVersion_of_validate (h : validate preferences = .ok ()) :
    preferences.schemaVersion = PREFERENCES_SCHEMA_VERSION := by
  by_contra hne
  rw [validate, if_pos hne] at h
  cases h

/-- Valid preferences are loaded as they were written. -/
theorem loaded_text (h : validate preferences = .ok ()) :
    loaded directory (.ok (preferencesText preferences)) = .ok preferences := by
  have hversion : preferences.schemaVersion ≤ 65535 := by
    rw [schemaVersion_of_validate h]
    decide
  unfold loaded
  simp only [decodePreferences_text hversion, h]

/-- Who looks at the file sees what the patches have made of the preferences. -/
theorem Results.loaded (h : Results directory stored patches content) :
    loaded directory (found content) = sequentially directory stored patches := by
  unfold Results at h
  by_cases hne : patches = []
  · rw [if_pos hne] at h
    rw [h, hne]
    exact (bind_pure _).symm
  · rw [if_neg hne] at h
    obtain ⟨preferences, hsequentially, rfl⟩ := h
    rw [hsequentially]
    exact loaded_text (validate_of_sequentially hne hsequentially)

theorem Results.concat (h : sequentially directory stored patches = .ok preferences)
    (hpatched : patched preferences patch = .ok after) :
    Results directory stored (patches ++ [patch]) (some (preferencesText after)) := by
  rw [Results, if_neg (by simp)]
  exact ⟨after, sequentially_concat_eq_ok.mpr ⟨preferences, h, hpatched⟩, rfl⟩

end Sequential

/-! ### The order of the patches -/

/-- The operation renames a file to that of the preferences. -/
def renames : (op : PreferencesOp) → op.Answer → Bool
  | .file (.rename _ .preferences), .ok _ => true
  | _, _ => false

/-- The directory cannot be brought to the disk. -/
def syncFails : (op : PreferencesOp) → op.Answer → Bool
  | .file .syncDirectory, .error _ => true
  | _, _ => false

/-- The call whose file becomes that of the preferences, and its patch. -/
def replacement (event : PreferencesEvent) : Option (ℕ × PreferencesPatch) :=
  match event.kind with
  | .updates _ patch => if renames event.op event.answer then some (event.pid, patch) else none
  | .loads => none

/-- The calls that have replaced the file, the oldest first. -/
def replacements (history : List PreferencesEvent) : List (ℕ × PreferencesPatch) :=
  history.reverse.filterMap replacement

theorem replacements_cons (event : PreferencesEvent) (history : List PreferencesEvent) :
    replacements (event :: history) = replacements history ++ (replacement event).toList := by
  rw [replacements, List.reverse_cons, List.filterMap_append, replacements]
  congr 1

theorem replacement_of_not_renames {event : PreferencesEvent}
    (h : renames event.op event.answer = false) : replacement event = none := by
  unfold replacement
  cases event.kind with
  | updates process patch => simp [h]
  | loads => rfl

/-- The order explains what the calls have done: each replaces the file once at most, what it
returns is what the patches up to its own make of the preferences, and a call that fails has not
changed them.  Who only reads gets what some of the patches have made of them, or cannot read the
file; and a file that was ever that of the preferences is not written any more. -/
structure Linearizes (directory : String) (stored : Option (List UInt8)) (c : PreferencesConfig)
    (order : List (ℕ × PreferencesPatch)) : Prop where
  once : (order.map Prod.fst).Nodup
  calls : ∀ pid patch, (pid, patch) ∈ order → ∃ process program,
    c.processes pid = some ⟨.updates process patch, some program⟩ ∧
      ∀ error, program ≠ .done (.error error)
  results : Results directory stored (order.map Prod.snd) (c.shared.files.content .preferences)
  returned : ∀ pid process patch after,
    c.processes pid = some ⟨.updates process patch, some (.done (.ok after))⟩ →
      ∃ earlier later, order = earlier ++ (pid, patch) :: later ∧
        sequentially directory stored (earlier.map Prod.snd ++ [patch]) = .ok after
  readers : ∀ pid result, c.processes pid = some ⟨.loads, some (.done result)⟩ →
    result = .error s!"failed to read preferences {PreferencesName.preferences.path directory}" ∨
      ∃ earlier, earlier <+: order ∧
        result = sequentially directory stored (earlier.map Prod.snd)
  complete : ∀ initial, loaded directory (found stored) = .ok initial → ∃ preferences,
    loaded directory (found (c.shared.files.content .preferences)) = .ok preferences
  steady : ∀ event ∈ c.history, ∀ file, event.before.files.entry .preferences = some file →
    c.shared.files.data file = event.before.files.data file

/-! ### Roles -/

/-- What has come of a call: it replaced the file after it had read this, or failed after that. -/
inductive Outcome
  | refused
  | replaced (read : Except FileError (List UInt8))
  | unsynced

/-- Where a call is: `saw` is for those that only read, and from `locked` to `finished` a call
holds the lock. -/
inductive Stage
  | outside
  | saw (read : Except FileError (List UInt8))
  | locked
  | preparing (read : Except FileError (List UInt8)) (draft : Option (Draft PreferencesName))
  | finished (outcome : Outcome)
  | left (outcome : Outcome)

structure Role where
  task : PreferencesTask
  stage : Stage

def Stage.draft : Stage → Option (Draft PreferencesName)
  | .preparing _ draft => draft
  | .outside | .saw _ | .locked | .finished _ | .left _ => none

def Stage.outcome : Stage → Outcome
  | .finished outcome | .left outcome => outcome
  | .outside | .saw _ | .locked | .preparing .. => .refused

def Stage.Holds : Stage → Prop
  | .locked | .preparing .. | .finished _ => True
  | .outside | .saw _ | .left _ => False

def PreferencesName.Temporary : PreferencesName → Prop
  | .temporary .. => True
  | .preferences | .lock => False

/-- The file that is renamed holds what the patch makes of what was read. -/
def Fits (directory : String) (read : Except FileError (List UInt8)) (bytes : List UInt8) :
    PreferencesTask → Prop
  | .updates _ patch => ∃ preferences after, loaded directory read = .ok preferences ∧
      patched preferences patch = .ok after ∧ bytes = preferencesText after
  | .loads => False

def Stage.Allows (directory : String) (task : PreferencesTask) : Stage → PreferencesOp → Prop
  | .outside, .file .createDirectory | .outside, .file (.touch .lock)
  | .outside, .file (.lock .lock) => True
  | .outside, .file (.read .preferences) => task = .loads
  | .locked, .file (.read .preferences) | .locked, .file (.unlock .lock) => True
  | .preparing _ none, .nextSequence _ | .preparing _ none, .file (.createNew (.temporary ..))
  | .preparing _ none, .file (.unlock .lock) => True
  | .preparing _ (some draft), .file (.write file _) => file = draft.file ∧ draft.bytes = []
  | .preparing _ (some _), .file (.sync _) => True
  | .preparing read (some draft), .file (.rename old .preferences) =>
    old = draft.name ∧ Fits directory read draft.bytes task
  | .preparing .., .file (.remove (.temporary ..)) => True
  | .finished (.replaced _), .file .syncDirectory | .finished _, .file (.remove (.temporary ..))
  | .finished _, .file (.unlock .lock) => True
  | _, _ => False

/-- Where a call is after an operation. -/
def Stage.next : Stage → (op : PreferencesOp) → op.Answer → Stage
  | .outside, .file (.lock _), .ok _ => .locked
  | .outside, .file (.read _), read => .saw read
  | .locked, .file (.read _), read => .preparing read none
  | .preparing read _, .file (.createNew name), .ok file => .preparing read (some ⟨name, file, []⟩)
  | .preparing read (some draft), .file (.write _ bytes), .ok _ =>
    .preparing read (some { draft with bytes })
  | .preparing read _, .file (.write ..), .error _ | .preparing read _, .file (.remove _), _ =>
    .preparing read none
  | .preparing read _, .file (.rename ..), .ok _ => .finished (.replaced read)
  | .finished _, .file .syncDirectory, .error _ => .finished .unsynced
  | stage, .file (.unlock _), _ => .left stage.outcome
  | stage, _, _ => stage

def Role.next (r : Role) (op : PreferencesOp) (answer : op.Answer) : Role :=
  ⟨r.task, r.stage.next op answer⟩

def discipline (directory : String) :
    Discipline PreferencesTask PreferencesOp PreferencesOp.Answer Role where
  Plays task r := r.task = task
  Rests _ _ := False
  Allows task r := r.stage.Allows directory task
  Turns r op answer r' := r' = r.next op answer

/-- What a call returns. -/
def Returns (directory : String) (task : PreferencesTask) (r : Role) :
    Except String UserPreferences → Prop
  | .ok after =>
    match task with
    | .updates _ patch => ∃ read preferences, r.stage = .left (.replaced read) ∧
        loaded directory read = .ok preferences ∧ patched preferences patch = .ok after
    | .loads => ∃ read, r.stage = .saw read ∧ loaded directory read = .ok after
  | .error error =>
    match task with
    | .updates .. => r.stage = .outside ∨ r.stage = .left .refused ∨ r.stage = .left .unsynced
    | .loads => ∃ read, r.stage = .saw read ∧ loaded directory read = .error error

section Texts

variable {directory : String} {task : PreferencesTask} {process : ℕ} {patch : PreferencesPatch}
  {read : Except FileError (List UInt8)} {preferences after : UserPreferences}

/-- An operation that is allowed. -/
theorem preferences_call {α : Type} {Q : Role → α → Prop} {op : PreferencesOp}
    {next : op.Answer → PreferencesProgram α} {stage : Stage}
    (hallows : stage.Allows directory task op)
    (hnext : ∀ answer, Follows (discipline directory) task Q (next answer)
      ⟨task, stage.next op answer⟩) :
    Follows (discipline directory) task Q (.perform op next) ⟨task, stage⟩ :=
  follows_perform.mpr ⟨hallows, fun answer r' hr' => by
    obtain rfl : r' = Role.next ⟨task, stage⟩ op answer := hr'
    exact hnext answer⟩

/-- Where the writing of the preferences ends. -/
def Written (read : Except FileError (List UInt8)) (r : Role) : Except String Unit → Prop
  | .ok _ => r.stage = .finished (.replaced read)
  | .error _ => (∃ draft, r.stage = .preparing read draft) ∨ r.stage = .finished .unsynced

/-- Where the saving of the preferences ends. -/
def Saved (read : Except FileError (List UInt8)) (r : Role) : Except String Unit → Prop
  | .ok _ => r.stage = .finished (.replaced read)
  | .error _ => r.stage = .preparing read none ∨ r.stage = .finished .unsynced

theorem replaceWith_follows {sequence : UInt64}
    (hfits : Fits directory read (preferencesText after) task) :
    Follows (discipline directory) task (fun r result => r.task = task ∧ Written read r result)
      (replaceWith directory (.temporary process sequence) after) ⟨task, .preparing read none⟩ := by
  refine preferences_call trivial fun created => ?_
  cases created with
  | error error => exact follows_pure.mpr ⟨rfl, .inl ⟨none, rfl⟩⟩
  | ok file =>
    refine preferences_call ⟨rfl, rfl⟩ fun wrote => ?_
    cases wrote with
    | error error => exact follows_pure.mpr ⟨rfl, .inl ⟨none, rfl⟩⟩
    | ok u =>
      refine preferences_call trivial fun synced => ?_
      cases synced with
      | error error => exact follows_pure.mpr ⟨rfl, .inl ⟨_, rfl⟩⟩
      | ok u =>
        refine preferences_call ⟨rfl, hfits⟩ fun renamed => ?_
        cases renamed with
        | error error => exact follows_pure.mpr ⟨rfl, .inl ⟨_, rfl⟩⟩
        | ok u =>
          refine preferences_call trivial fun directorySynced => ?_
          cases directorySynced with
          | error error => exact follows_pure.mpr ⟨rfl, .inr rfl⟩
          | ok u => exact follows_pure.mpr ⟨rfl, rfl⟩

theorem saveAtPath_follows (hfits : Fits directory read (preferencesText after) task) :
    Follows (discipline directory) task (fun r result => r.task = task ∧ Saved read r result)
      (saveAtPath directory process after) ⟨task, .preparing read none⟩ := by
  refine preferences_call trivial fun sequence =>
    .bind (follows_pure.mpr (.bind ((replaceWith_follows hfits).mono ?_)))
  rintro ⟨_, stage⟩ result ⟨rfl, hwritten⟩
  cases result with
  | ok u => exact follows_pure.mpr ⟨rfl, hwritten⟩
  | error error =>
    rcases hwritten with ⟨draft, hstage⟩ | hstage
    · obtain rfl : stage = .preparing read draft := hstage
      refine preferences_call ?_ fun removed => ?_
      · cases draft <;> trivial
      · refine follows_pure.mpr ⟨rfl, .inl ?_⟩
        cases draft <;> rfl
    · obtain rfl : stage = .finished .unsynced := hstage
      exact preferences_call trivial fun removed => follows_pure.mpr ⟨rfl, .inr rfl⟩

/-- Where a call is before it releases the lock. -/
def Updated (directory : String) (patch : PreferencesPatch) (r : Role) :
    Except String UserPreferences → Prop
  | .ok after => ∃ read preferences, r.stage = .finished (.replaced read) ∧
      loaded directory read = .ok preferences ∧ patched preferences patch = .ok after
  | .error _ => (∃ read, r.stage = .preparing read none) ∨ r.stage = .finished .unsynced

theorem updateLocked_follows (htask : task = .updates process patch) :
    Follows (discipline directory) task
      (fun r result => r.task = task ∧ Updated directory patch r result)
      (updateLocked directory process patch) ⟨task, .locked⟩ := by
  refine preferences_call trivial fun read =>
    .bind (.bind (follows_pure.mpr (follows_pure.mpr ?_)))
  cases hload : loaded directory read with
  | error error =>
    exact follows_pure.mpr ⟨rfl, .inl ⟨read, rfl⟩⟩
  | ok preferences =>
    cases hvalid : validate (patch.apply preferences) with
    | error error =>
      simp only [hvalid]
      exact follows_pure.mpr ⟨rfl, .inl ⟨read, rfl⟩⟩
    | ok u =>
      simp only [hvalid]
      have hpatched : patched preferences patch = .ok (patch.apply preferences) :=
        patched_eq_ok.mpr ⟨rfl, hvalid⟩
      have hfits : Fits directory read (preferencesText (patch.apply preferences)) task := by
        rw [htask]
        exact ⟨preferences, _, hload, hpatched, rfl⟩
      refine .bind ((saveAtPath_follows hfits).mono ?_)
      rintro ⟨_, stage⟩ result ⟨rfl, hsaved⟩
      cases result with
      | ok u => exact follows_pure.mpr ⟨rfl, read, preferences, hsaved, hload, hpatched⟩
      | error error =>
        rcases hsaved with hstage | hstage
        · exact follows_pure.mpr ⟨rfl, .inl ⟨read, hstage⟩⟩
        · exact follows_pure.mpr ⟨rfl, .inr hstage⟩

theorem updateAtPath_follows (htask : task = .updates process patch) :
    Follows (discipline directory) task (Returns directory task)
      (updateAtPath directory process patch) ⟨task, .outside⟩ := by
  subst htask
  refine preferences_call trivial fun made => ?_
  cases made with
  | error error => exact follows_pure.mpr (.inl rfl)
  | ok u =>
    refine preferences_call trivial fun touched => ?_
    cases touched with
    | error error => exact follows_pure.mpr (.inl rfl)
    | ok u =>
      refine preferences_call trivial fun locked => ?_
      cases locked with
      | error error => exact follows_pure.mpr (.inl rfl)
      | ok u =>
        refine .bind (follows_pure.mpr (.bind ((updateLocked_follows rfl).mono ?_)))
        rintro ⟨_, stage⟩ result ⟨rfl, hupdated⟩
        cases result with
        | ok after =>
          obtain ⟨read, preferences, hstage, hload, hpatched⟩ := hupdated
          obtain rfl : stage = .finished (.replaced read) := hstage
          exact preferences_call trivial fun unlocked =>
            follows_pure.mpr ⟨read, preferences, rfl, hload, hpatched⟩
        | error error =>
          rcases hupdated with ⟨read, hstage⟩ | hstage
          · obtain rfl : stage = .preparing read none := hstage
            exact preferences_call trivial fun unlocked => follows_pure.mpr (.inr (.inl rfl))
          · obtain rfl : stage = .finished .unsynced := hstage
            exact preferences_call trivial fun unlocked => follows_pure.mpr (.inr (.inr rfl))

/-- The text of a call. -/
theorem text_follows (directory : String) (task : PreferencesTask) :
    Follows (discipline directory) task (Returns directory task) (task.text directory)
      ⟨task, .outside⟩ := by
  cases task with
  | updates process patch => exact updateAtPath_follows rfl
  | loads =>
    refine preferences_call rfl fun read => follows_pure.mpr ?_
    cases hload : loaded directory read with
    | error error => exact ⟨read, rfl, hload⟩
    | ok after => exact ⟨read, rfl, hload⟩

end Texts

/-! ### The invariant -/

def drafts (roles : ℕ → Option Role) (pid : ℕ) : Option (Draft PreferencesName) :=
  (roles pid).bind fun r => r.stage.draft

/-- What was read is what some of the patches had made of the preferences, if it could be read. -/
def Told (directory : String) (stored : Option (List UInt8)) (patches : List PreferencesPatch)
    (read : Except FileError (List UInt8)) : Prop :=
  loaded directory read = sequentially directory stored patches ∨
    loaded directory read =
      .error s!"failed to read preferences {PreferencesName.preferences.path directory}"

/-- The file has been that of the preferences, and nobody writes it any more. -/
structure Settled (s : Files PreferencesName) (drafts : ℕ → Option (Draft PreferencesName))
    (file : ℕ) (bytes : List UInt8) : Prop where
  bounded : file < s.next
  data : s.data file = bytes
  undrafted : ∀ pid d, drafts pid = some d → d.file ≠ file

section Knowledge

variable (directory : String) (stored : Option (List UInt8)) (history : List PreferencesEvent)
  (pid : ℕ) (task : PreferencesTask)

/-- The call is one of those that have replaced the file. -/
def Replaced : Prop := pid ∈ (replacements history).map Prod.fst

/-- What has come of the call. -/
def Made : Outcome → Prop
  | .refused => ¬ Replaced history pid
  | .replaced read => ∃ process patch earlier later, task = .updates process patch ∧
      replacements history = earlier ++ (pid, patch) :: later ∧
        loaded directory read = sequentially directory stored (earlier.map Prod.snd)
  | .unsynced => Replaced history pid ∧
      ∃ event ∈ history, syncFails event.op event.answer = true

/-- What a call knows. -/
def Knows : Stage → Prop
  | .outside | .locked => ¬ Replaced history pid
  | .saw read => ¬ Replaced history pid ∧ ∃ earlier, earlier <+: replacements history ∧
      Told directory stored (earlier.map Prod.snd) read
  | .preparing read _ => ¬ Replaced history pid ∧
      Told directory stored ((replacements history).map Prod.snd) read
  | .finished outcome | .left outcome => Made directory stored history pid task outcome

end Knowledge

structure Invariant (directory : String) (stored : Option (List UInt8)) (s : PreferencesFiles)
    (history : List PreferencesEvent) (roles : ℕ → Option Role) : Prop where
  staged : s.files.Staged (drafts roles)
  temporary : ∀ pid d, drafts roles pid = some d → d.name.Temporary
  holder : ∀ pid r, roles pid = some r → r.stage.Holds → s.files.holder .lock = some pid
  results : Results directory stored ((replacements history).map Prod.snd)
    (s.files.content .preferences)
  steady : ∀ event ∈ history, ∀ file, event.before.files.entry .preferences = some file →
    Settled s.files (drafts roles) file (event.before.files.data file)
  known : ∀ pid patch, (pid, patch) ∈ replacements history →
    ∃ r process, roles pid = some r ∧ r.task = .updates process patch
  once : ((replacements history).map Prod.fst).Nodup
  knows : ∀ pid r, roles pid = some r → Knows directory stored history pid r.task r.stage

section Invariant

variable {directory : String} {stored : Option (List UInt8)} {s s' : PreferencesFiles}
  {history : List PreferencesEvent} {roles : ℕ → Option Role} {pid : ℕ} {r : Role}
  {op : PreferencesOp} {answer : op.Answer}

@[simp] theorem drafts_update (roles : ℕ → Option Role) (pid : ℕ) (r : Role) :
    drafts (Function.update roles pid (some r)) = Function.update (drafts roles) pid r.stage.draft := by
  funext q
  rcases eq_or_ne q pid with rfl | hne
  · simp [drafts]
  · simp [drafts, hne]

theorem drafts_of_role (hr : roles pid = some r) : drafts roles pid = r.stage.draft := by
  rw [drafts, hr, Option.bind_some]

theorem role_cases {q : ℕ} {r r' : Role} (h : Function.update roles pid (some r) q = some r') :
    q = pid ∧ r' = r ∨ q ≠ pid ∧ roles q = some r' := by
  rcases eq_or_ne q pid with rfl | hne
  · rw [Function.update_self, Option.some.injEq] at h
    exact .inl ⟨rfl, h.symm⟩
  · rw [Function.update_of_ne hne] at h
    exact .inr ⟨hne, h⟩

/-- What a call knows stays true while the others go on: who holds the lock knows that nobody
else replaces the file. -/
theorem Knows.frame {task : PreferencesTask} {stage : Stage} {event : PreferencesEvent}
    (h : Knows directory stored history pid task stage)
    (hother : event.pid ≠ pid ∨ renames event.op event.answer = false)
    (hholds : stage.Holds → renames event.op event.answer = false) :
    Knows directory stored (event :: history) pid task stage := by
  have hreplaced : Replaced (event :: history) pid ↔ Replaced history pid := by
    rw [Replaced, Replaced, replacements_cons, List.map_append, List.mem_append, or_iff_left]
    unfold replacement
    cases event.kind with
    | updates process patch =>
      rcases hother with hne | hrenames
      · split <;> simp [hne]
      · simp [hrenames]
    | loads => simp
  have hmade (outcome : Outcome) (hmade : Made directory stored history pid task outcome) :
      Made directory stored (event :: history) pid task outcome := by
    cases outcome with
    | refused => exact fun h => hmade (hreplaced.mp h)
    | replaced read =>
      obtain ⟨process, patch, earlier, later, htask, horder, hload⟩ := hmade
      refine ⟨process, patch, earlier, later ++ (replacement event).toList, htask, ?_, hload⟩
      rw [replacements_cons, horder, List.append_assoc, List.cons_append]
    | unsynced =>
      obtain ⟨hmem, failed, hfailed, hfails⟩ := hmade
      exact ⟨hreplaced.mpr hmem, failed, List.mem_cons_of_mem _ hfailed, hfails⟩
  cases stage with
  | outside => exact fun hmem => h (hreplaced.mp hmem)
  | locked => exact fun hmem => h (hreplaced.mp hmem)
  | saw read =>
    obtain ⟨hnot, earlier, hprefix, htold⟩ := h
    refine ⟨fun hmem => hnot (hreplaced.mp hmem), earlier, ?_, htold⟩
    rw [replacements_cons]
    exact hprefix.trans (List.prefix_append _ _)
  | preparing read draft =>
    obtain ⟨hnot, htold⟩ := h
    refine ⟨fun hmem => hnot (hreplaced.mp hmem), ?_⟩
    rwa [replacements_cons, replacement_of_not_renames (hholds trivial), Option.toList_none,
      List.append_nil]
  | finished outcome => exact hmade outcome h
  | left outcome => exact hmade outcome h

theorem settled_of_current (h : Invariant directory stored s history roles) {file : ℕ}
    (hfile : s.files.entry .preferences = some file) :
    Settled s.files (drafts roles) file (s.files.data file) := by
  refine ⟨h.staged.bounded _ file hfile, rfl, ?_⟩
  rintro q d hd rfl
  have hname := h.staged.sole q d hd .preferences hfile
  have htemporary := h.temporary q d hd
  rw [← hname] at htemporary
  exact htemporary

/-- Nobody prepares the file of the preferences. -/
theorem Invariant.undrafted (h : Invariant directory stored s history roles) :
    Files.Undrafted (drafts roles) .preferences := by
  intro q d hd hname
  have htemporary := h.temporary q d hd
  rw [hname] at htemporary
  exact htemporary

/-- Only who holds the lock prepares a file. -/
theorem Invariant.sole_draft (h : Invariant directory stored s history roles) (hr : roles pid = some r)
    (hholds : r.stage.Holds) {q : ℕ} (hne : q ≠ pid) : drafts roles q = none := by
  cases hq : roles q with
  | none => rw [drafts, hq, Option.bind_none]
  | some r' =>
    rw [drafts_of_role hq]
    cases hstage : r'.stage with
    | preparing read draft =>
      have hlock := h.holder q r' hq (by rw [hstage]; trivial)
      rw [h.holder pid r hr hholds] at hlock
      exact absurd (Option.some.inj hlock).symm hne
    | outside | saw | locked | finished | left => rfl

/-- The call `pid` performs an operation. -/
theorem Invariant.recast (h : Invariant directory stored s history roles) (hr : roles pid = some r)
    {next : Stage} (hstaged : s'.files.Staged (Function.update (drafts roles) pid next.draft))
    (htemporary : ∀ d, next.draft = some d → d.name.Temporary)
    (hlock : ∀ q r', q ≠ pid → roles q = some r' → r'.stage.Holds →
      s'.files.holder .lock = some q ∧ renames op answer = false)
    (hholder : next.Holds → s'.files.holder .lock = some pid)
    (hsettled : ∀ file bytes, Settled s.files (drafts roles) file bytes →
      Settled s'.files (Function.update (drafts roles) pid next.draft) file bytes)
    (hresults : Results directory stored
      ((replacements (⟨pid, r.task, s, op, answer⟩ :: history)).map Prod.snd)
        (s'.files.content .preferences))
    (hfresh : renames op answer = true → ¬ Replaced history pid)
    (hknows : Knows directory stored (⟨pid, r.task, s, op, answer⟩ :: history) pid r.task next) :
    Invariant directory stored s' (⟨pid, r.task, s, op, answer⟩ :: history)
      (Function.update roles pid (some ⟨r.task, next⟩)) := by
  have hnew : ∀ q patch, (q, patch) ∈ replacements (⟨pid, r.task, s, op, answer⟩ :: history) →
      (q, patch) ∈ replacements history ∨
        q = pid ∧ renames op answer = true ∧ ∃ process, r.task = .updates process patch := by
    intro q patch hmem
    rw [replacements_cons, List.mem_append, Option.mem_toList] at hmem
    rcases hmem with hmem | hmem
    · exact .inl hmem
    · refine .inr ?_
      unfold replacement at hmem
      cases htask : r.task with
      | updates process patch' =>
        cases hrenames : renames op answer with
        | true =>
          simp only [htask, hrenames, if_true, Option.some.injEq, Prod.mk.injEq] at hmem
          exact ⟨hmem.1.symm, rfl, process, by rw [hmem.2]⟩
        | false => simp [htask, hrenames] at hmem
      | loads => simp [htask] at hmem
  refine ⟨?_, fun q d hd => ?_, fun q r' hq hholds => ?_, hresults, fun event hmem file hfile => ?_,
    fun q patch hmem => ?_, ?_, fun q r' hq => ?_⟩
  · rwa [drafts_update]
  · rw [drafts_update] at hd
    rcases eq_or_ne q pid with rfl | hne
    · rw [Function.update_self] at hd
      exact htemporary d hd
    · rw [Function.update_of_ne hne] at hd
      exact h.temporary q d hd
  · rcases role_cases hq with ⟨rfl, rfl⟩ | ⟨hne, hq⟩
    · exact hholder hholds
    · exact (hlock q r' hne hq hholds).1
  · rw [drafts_update]
    rcases List.mem_cons.mp hmem with rfl | hmem
    · exact hsettled file _ (settled_of_current h hfile)
    · exact hsettled file _ (h.steady event hmem file hfile)
  · rcases hnew q patch hmem with hmem | ⟨rfl, -, process, htask⟩
    · obtain ⟨r', process, hq, htask⟩ := h.known q patch hmem
      rcases eq_or_ne q pid with rfl | hne
      · obtain rfl := Option.some.inj (hr.symm.trans hq)
        exact ⟨_, process, Function.update_self .., htask⟩
      · exact ⟨r', process, by rwa [Function.update_of_ne hne], htask⟩
    · exact ⟨_, process, Function.update_self .., htask⟩
  · rw [replacements_cons, List.map_append, List.nodup_append]
    refine ⟨h.once, ?_, fun q hq q' hq' heq => ?_⟩
    · cases replacement _ <;> simp
    · obtain ⟨x, hx, rfl⟩ := List.mem_map.mp hq'
      have hx' : x ∈ replacements (⟨pid, r.task, s, op, answer⟩ :: history) := by
        rw [replacements_cons]
        exact List.mem_append_right _ hx
      unfold replacement at hx
      cases htask : r.task with
      | updates process patch =>
        cases hrenames : renames op answer with
        | true =>
          simp only [htask, hrenames, if_true, Option.toList_some, List.mem_singleton] at hx
          rw [hx] at heq
          obtain rfl : q = pid := heq
          exact hfresh hrenames hq
        | false => simp [htask, hrenames] at hx
      | loads => simp [htask] at hx
  · rcases role_cases hq with ⟨rfl, rfl⟩ | ⟨hne, hq⟩
    · exact hknows
    · exact (h.knows q r' hq).frame (.inl hne.symm) fun hholds => (hlock q r' hne hq hholds).2

/-- An operation that renames nothing to the file of the preferences. -/
theorem Invariant.quiet (h : Invariant directory stored s history roles) (hr : roles pid = some r)
    {next : Stage} (hrenames : renames op answer = false)
    (hstaged : s'.files.Staged (Function.update (drafts roles) pid next.draft))
    (htemporary : ∀ d, next.draft = some d → d.name.Temporary)
    (hlock : ∀ q, q ≠ pid → s.files.holder .lock = some q → s'.files.holder .lock = some q)
    (hholder : next.Holds → s'.files.holder .lock = some pid)
    (hsettled : ∀ file bytes, Settled s.files (drafts roles) file bytes →
      Settled s'.files (Function.update (drafts roles) pid next.draft) file bytes)
    (hcontent : s'.files.content .preferences = s.files.content .preferences)
    (hknows : Knows directory stored history pid r.task next) :
    Invariant directory stored s' (⟨pid, r.task, s, op, answer⟩ :: history)
      (Function.update roles pid (some ⟨r.task, next⟩)) := by
  have hnone : replacement ⟨pid, r.task, s, op, answer⟩ = none := replacement_of_not_renames hrenames
  refine h.recast hr hstaged htemporary (fun q r' hne hq hholds =>
    ⟨hlock q hne (h.holder q r' hq hholds), hrenames⟩) hholder hsettled ?_ (fun htrue => ?_)
    (hknows.frame (.inr hrenames) fun _ => hrenames)
  · rw [replacements_cons, hnone, Option.toList_none, List.append_nil, hcontent]
    exact h.results
  · rw [hrenames] at htrue
    cases htrue

/-- An operation that leaves the files as they are. -/
theorem Invariant.look (h : Invariant directory stored s history roles) (hr : roles pid = some r)
    {next : Stage} (hrenames : renames op answer = false) (hfiles : s'.files = s.files)
    (hdraft : next.draft = r.stage.draft) (hholds : next.Holds → r.stage.Holds)
    (hknows : Knows directory stored history pid r.task next) :
    Invariant directory stored s' (⟨pid, r.task, s, op, answer⟩ :: history)
      (Function.update roles pid (some ⟨r.task, next⟩)) := by
  have hsame : Function.update (drafts roles) pid next.draft = drafts roles := by
    rw [hdraft, ← drafts_of_role hr, Function.update_eq_self]
  refine h.quiet hr hrenames ?_ (fun d hd => ?_) (fun q _ hq => ?_) (fun hnext => ?_)
    (fun file bytes hsettled => ?_) ?_ hknows
  · rw [hsame, hfiles]
    exact h.staged
  · rw [hdraft, ← drafts_of_role hr] at hd
    exact h.temporary pid d hd
  · rwa [hfiles]
  · rw [hfiles]
    exact h.holder pid r hr (hholds hnext)
  · rwa [hsame, hfiles]
  · rw [hfiles]

/-! ### Operations -/

theorem not_holds_of_unlocked (h : Invariant directory stored s history roles)
    (hfree : s.files.holder .lock = none) {q : ℕ} {r' : Role} (hq : roles q = some r') :
    ¬ r'.stage.Holds := by
  intro hholds
  have hlock := h.holder q r' hq hholds
  rw [hfree] at hlock
  cases hlock

theorem told_of_read {answer : Except FileError (List UInt8)}
    {patches : List PreferencesPatch}
    (hresults : Results directory stored patches (s.files.content .preferences))
    (hexec : FileOp.Exec pid s.files (.read .preferences) answer s'.files) :
    s'.files = s.files ∧ Told directory stored patches answer := by
  cases answer with
  | ok bytes =>
    obtain ⟨hcontent, hfiles⟩ := hexec
    rw [hcontent] at hresults
    exact ⟨hfiles, .inl hresults.loaded⟩
  | error error =>
    obtain ⟨hmissing, hfiles⟩ := hexec
    refine ⟨hfiles, ?_⟩
    cases error with
    | notFound =>
      rw [Files.content_eq_none.mpr (hmissing rfl)] at hresults
      exact .inl hresults.loaded
    | alreadyExists => exact .inr rfl
    | other text => exact .inr rfl

section Operations

variable (h : Invariant directory stored s history roles) {task : PreferencesTask} {stage : Stage}
  (hr : roles pid = some ⟨task, stage⟩)

include h hr

theorem touch_kept {answer : Except FileError Unit}
    (hexec : FileOp.Exec pid s.files (.touch .lock) answer s'.files)
    (hknows : Knows directory stored history pid task .outside) (hstage : stage = .outside) :
    Invariant directory stored s' (⟨pid, task, s, .file (.touch .lock), answer⟩ :: history)
      (Function.update roles pid (some ⟨task, .outside⟩)) := by
  subst hstage
  cases answer with
  | error error => exact h.look hr rfl hexec rfl (fun hholds => hholds) hknows
  | ok u =>
    have hfiles : s'.files = s.files.touch .lock := hexec
    have hsame : Function.update (drafts roles) pid none = drafts roles := by
      rw [← show drafts roles pid = none from drafts_of_role hr, Function.update_eq_self]
    have hfree : Files.Undrafted (drafts roles) .lock := by
      intro q d hd hname
      have htemporary := h.temporary q d hd
      rw [hname] at htemporary
      exact htemporary
    obtain ⟨hnext, -⟩ := Files.lt_next_touch (s := s.files) .lock
    refine h.quiet hr rfl ?_ nofun (fun q _ hq => ?_) nofun (fun file bytes hsettled => ?_) ?_ hknows
    · rw [Stage.draft, hsame, hfiles]
      exact h.staged.touch hfree
    · rwa [hfiles]
    · rw [Stage.draft, hsame, hfiles]
      refine ⟨lt_of_lt_of_le hsettled.bounded hnext, ?_, hsettled.undrafted⟩
      rw [Files.data_touch .lock hsettled.bounded, hsettled.data]
    · rw [hfiles, Files.content_touch h.staged.bounded (by decide)]

theorem lock_kept {answer : Except FileError Unit} (hstage : stage = .outside)
    (hexec : FileOp.Exec pid s.files (.lock .lock) answer s'.files) :
    Invariant directory stored s' (⟨pid, task, s, .file (.lock .lock), answer⟩ :: history)
      (Function.update roles pid (some ⟨task, stage.next (.file (.lock .lock)) answer⟩)) := by
  subst hstage
  have hknows := h.knows pid _ hr
  cases answer with
  | error error => exact h.look hr rfl hexec rfl (fun hholds => hholds) hknows
  | ok u =>
    obtain ⟨hfree, hfiles⟩ := hexec
    have hsame : Function.update (drafts roles) pid none = drafts roles := by
      rw [← show drafts roles pid = none from drafts_of_role hr, Function.update_eq_self]
    refine h.quiet hr rfl ?_ nofun (fun q _ hq => ?_) (fun _ => ?_) (fun file bytes hsettled => ?_) ?_
      hknows
    · rw [Stage.next, Stage.draft, hsame, hfiles]
      exact h.staged.of_eq rfl rfl rfl
    · rw [hfree] at hq
      cases hq
    · simp [hfiles, Files.setHolder]
    · rw [Stage.next, Stage.draft, hsame, hfiles]
      exact ⟨hsettled.bounded, hsettled.data, hsettled.undrafted⟩
    · rw [hfiles, Files.content_setHolder]

theorem unlock_kept {answer : Unit} (hholds : stage.Holds) (hdraft : stage.draft = none)
    (hnext : stage.next (.file (.unlock .lock)) answer = .left stage.outcome)
    (hmade : Made directory stored history pid task stage.outcome)
    (hexec : FileOp.Exec pid s.files (.unlock .lock) answer s'.files) :
    Invariant directory stored s' (⟨pid, task, s, .file (.unlock .lock), answer⟩ :: history)
      (Function.update roles pid (some ⟨task, stage.next (.file (.unlock .lock)) answer⟩)) := by
  have hfiles : s'.files = s.files.setHolder .lock none := hexec
  have hsame : Function.update (drafts roles) pid none = drafts roles := by
    rw [← hdraft, ← show drafts roles pid = stage.draft from drafts_of_role hr,
      Function.update_eq_self]
  rw [hnext]
  refine h.quiet hr rfl ?_ nofun (fun q hne hq => ?_) nofun (fun file bytes hsettled => ?_) ?_ hmade
  · rw [Stage.draft, hsame, hfiles]
    exact h.staged.of_eq rfl rfl rfl
  · rw [h.holder pid _ hr hholds] at hq
    exact absurd (Option.some.inj hq).symm hne
  · rw [Stage.draft, hsame, hfiles]
    exact ⟨hsettled.bounded, hsettled.data, hsettled.undrafted⟩
  · rw [hfiles, Files.content_setHolder]

/-- The others prepare nothing while the call holds the lock. -/
theorem undrafted_others (hholds : stage.Holds) (name : PreferencesName) :
    Files.Undrafted (Function.update (drafts roles) pid none) name := by
  intro q d hd
  rcases eq_or_ne q pid with rfl | hne
  · simp at hd
  · rw [Function.update_of_ne hne, h.sole_draft hr hholds hne] at hd
    cases hd

theorem createNew_kept {name : PreferencesName} {read : Except FileError (List UInt8)}
    {answer : Except FileError ℕ} (hstage : stage = .preparing read none) (htemporary : name.Temporary)
    (hexec : FileOp.Exec pid s.files (.createNew name) answer s'.files) :
    Invariant directory stored s' (⟨pid, task, s, .file (.createNew name), answer⟩ :: history)
      (Function.update roles pid (some ⟨task, stage.next (.file (.createNew name)) answer⟩)) := by
  subst hstage
  have hknows := h.knows pid _ hr
  cases answer with
  | error error => exact h.look hr rfl hexec rfl (fun hholds => hholds) hknows
  | ok file =>
    obtain ⟨hfree, rfl, hfiles⟩ := hexec
    have hlast : s.files.fileOf name = s.files.next := by rw [Files.fileOf, hfree, Option.getD_none]
    refine h.quiet hr rfl ?_ (fun d hd => ?_) (fun q _ hq => ?_) (fun _ => ?_)
      (fun file bytes hsettled => ?_) ?_ hknows
    · rw [hfiles]
      exact h.staged.create (Files.sole_of_none hfree) (undrafted_others h hr trivial name)
    · obtain rfl := Option.some.inj hd
      exact htemporary
    · rwa [hfiles]
    · rw [hfiles]
      exact h.holder pid _ hr trivial
    · have hne : file ≠ s.files.fileOf name := by
        rw [hlast]
        exact Nat.ne_of_lt hsettled.bounded
      have hkept : (s.files.create pid name).data file = s.files.data file :=
        Function.update_of_ne hne _ _
      rw [hfiles]
      refine ⟨lt_of_lt_of_le hsettled.bounded (le_max_left _ _), hkept.trans hsettled.data,
        fun q d hd => ?_⟩
      · rcases eq_or_ne q pid with rfl | hq
        · rw [Function.update_self] at hd
          obtain rfl := Option.some.inj hd
          exact hne.symm
        · rw [Function.update_of_ne hq] at hd
          exact hsettled.undrafted q d hd
    · rw [hfiles]
      refine Files.content_create pid h.staged.bounded (Files.sole_of_none hfree) ?_
      rintro rfl
      exact htemporary

theorem write_kept {read : Except FileError (List UInt8)} {d : Draft PreferencesName} {file : ℕ}
    {bytes : List UInt8} {answer : Except FileError Unit} (hstage : stage = .preparing read (some d))
    (hfile : file = d.file) (hempty : d.bytes = [])
    (hexec : FileOp.Exec pid s.files (.write file bytes) answer s'.files) :
    Invariant directory stored s' (⟨pid, task, s, .file (.write file bytes), answer⟩ :: history)
      (Function.update roles pid (some ⟨task, stage.next (.file (.write file bytes)) answer⟩)) := by
  subst hstage hfile
  have hknows := h.knows pid _ hr
  have hd : drafts roles pid = some d := drafts_of_role hr
  have hname : PreferencesName.preferences ≠ d.name := (h.undrafted pid d hd).symm
  have hentry : s.files.entry .preferences ≠ some d.file := h.staged.entry_ne hd hname
  have hstaged := h.staged.write hd
  have hdata (part : List UInt8) {file : ℕ} (hne : d.file ≠ file) :
      (s.files.store d.file part).data file = s.files.data file := Function.update_of_ne hne.symm _ _
  cases answer with
  | ok u =>
    have hfiles : s'.files = s.files.store d.file bytes := hexec
    refine h.quiet hr rfl ?_ (fun e he => ?_) (fun q _ hq => ?_) (fun _ => ?_)
      (fun file found hsettled => ?_) ?_ hknows
    · have hwritten := hstaged bytes
      rw [hempty, List.drop_nil, List.append_nil] at hwritten
      rwa [hfiles]
    · obtain rfl := Option.some.inj he
      exact h.temporary pid d hd
    · rwa [hfiles]
    · rw [hfiles]
      exact h.holder pid _ hr trivial
    · have hne := hsettled.undrafted pid d hd
      rw [hfiles]
      refine ⟨hsettled.bounded, (hdata bytes hne).trans hsettled.data, fun q e he => ?_⟩
      rcases eq_or_ne q pid with rfl | hq
      · rw [Function.update_self] at he
        obtain rfl := Option.some.inj he
        exact hne
      · rw [Function.update_of_ne hq] at he
        exact hsettled.undrafted q e he
    · rw [hfiles, Files.content_store bytes hentry]
  | error error =>
    obtain ⟨part, -, hfiles⟩ := hexec
    refine h.quiet hr rfl ?_ nofun (fun q _ hq => ?_) (fun _ => ?_) (fun file found hsettled => ?_) ?_
      hknows
    · have hleft := (hstaged part).drop pid
      rw [Function.update_idem] at hleft
      rw [hfiles]
      exact hleft.of_eq rfl rfl rfl
    · rwa [hfiles]
    · rw [hfiles]
      exact h.holder pid _ hr trivial
    · have hne := hsettled.undrafted pid d hd
      rw [hfiles]
      refine ⟨hsettled.bounded, (hdata part hne).trans hsettled.data, fun q e he => ?_⟩
      rcases eq_or_ne q pid with rfl | hq
      · exact absurd he (by simp [Stage.next, Stage.draft])
      · exact hsettled.undrafted q e (by rwa [Function.update_of_ne hq] at he)
    · rw [hfiles, Files.content_giveUp, Files.content_store part hentry]

theorem remove_kept {name : PreferencesName} {answer : Except FileError Unit}
    (hholds : stage.Holds) (htemporary : name.Temporary)
    (hnext : (stage.next (.file (.remove name)) answer).draft = none ∧
      (stage.next (.file (.remove name)) answer).Holds)
    (hknows : Knows directory stored history pid task (stage.next (.file (.remove name)) answer))
    (hexec : FileOp.Exec pid s.files (.remove name) answer s'.files) :
    Invariant directory stored s' (⟨pid, task, s, .file (.remove name), answer⟩ :: history)
      (Function.update roles pid (some ⟨task, stage.next (.file (.remove name)) answer⟩)) := by
  have hne : PreferencesName.preferences ≠ name := by
    rintro rfl
    exact htemporary
  have hfree := undrafted_others h hr hholds name
  have hholder := h.holder pid _ hr hholds
  have hsettled {file : ℕ} {bytes : List UInt8} (hsettled : Settled s.files (drafts roles) file bytes) :
      ∀ q d, Function.update (drafts roles) pid none q = some d → d.file ≠ file := by
    intro q d hd
    rcases eq_or_ne q pid with rfl | hq
    · simp at hd
    · exact hsettled.undrafted q d (by rwa [Function.update_of_ne hq] at hd)
  obtain ⟨hdraft, -⟩ := hnext
  cases answer with
  | ok u =>
    have hfiles : s'.files = (s.files.remove name).leave pid name := hexec
    refine h.quiet hr rfl ?_ (fun d hd => ?_) (fun q _ hq => ?_) (fun _ => ?_)
      (fun file bytes hfile => ?_) ?_ hknows
    · rw [hdraft, hfiles]
      exact (h.staged.remove hfree).of_eq rfl rfl rfl
    · rw [hdraft] at hd
      cases hd
    · rwa [hfiles]
    · rwa [hfiles]
    · rw [hdraft, hfiles]
      exact ⟨hfile.bounded, hfile.data, hsettled hfile⟩
    · rw [hfiles, Files.content_leave, Files.content_remove hne]
  | error error =>
    have hfiles : s'.files = s.files.leave pid name := hexec
    refine h.quiet hr rfl ?_ (fun d hd => ?_) (fun q _ hq => ?_) (fun _ => ?_)
      (fun file bytes hfile => ?_) ?_ hknows
    · rw [hdraft, hfiles]
      exact (h.staged.drop pid).of_eq rfl rfl rfl
    · rw [hdraft] at hd
      cases hd
    · rwa [hfiles]
    · rwa [hfiles]
    · rw [hdraft, hfiles]
      exact ⟨hfile.bounded, hfile.data, hsettled hfile⟩
    · rw [hfiles, Files.content_leave]

/-- The file of the call becomes that of the preferences. -/
theorem rename_kept {read : Except FileError (List UInt8)} {d : Draft PreferencesName}
    {old : PreferencesName} {answer : Except FileError Unit}
    (hstage : stage = .preparing read (some d)) (hold : old = d.name)
    (hfits : Fits directory read d.bytes task)
    (hexec : FileOp.Exec pid s.files (.rename old .preferences) answer s'.files) :
    Invariant directory stored s' (⟨pid, task, s, .file (.rename old .preferences), answer⟩ :: history)
      (Function.update roles pid
        (some ⟨task, stage.next (.file (.rename old .preferences)) answer⟩)) := by
  subst hstage hold
  obtain ⟨hnot, htold⟩ := h.knows pid _ hr
  cases answer with
  | error error => exact h.look hr rfl hexec rfl (fun hholds => hholds) ⟨hnot, htold⟩
  | ok u =>
    obtain ⟨-, hfiles⟩ := hexec
    have hd : drafts roles pid = some d := drafts_of_role hr
    have hname : PreferencesName.preferences ≠ d.name := (h.undrafted pid d hd).symm
    obtain ⟨hstaged, hcontent, -⟩ := h.staged.rename hd hname h.undrafted
    have hholder := h.holder pid _ hr trivial
    have hnext : (s.files.rename d.name .preferences).next = s.files.next := by
      unfold Files.rename
      split <;> rfl
    have hdata : (s.files.rename d.name .preferences).data = s.files.data := by
      unfold Files.rename
      split <;> rfl
    have hlocks : (s.files.rename d.name .preferences).holder = s.files.holder := by
      unfold Files.rename
      split <;> rfl
    cases task with
    | loads => exact hfits.elim
    | updates process patch =>
      obtain ⟨preferences, after, hload, hpatched, hbytes⟩ := hfits
      have hsequentially : sequentially directory stored ((replacements history).map Prod.snd) =
          .ok preferences := by
        rcases htold with htold | htold
        · exact htold.symm.trans hload
        · rw [hload] at htold
          cases htold
      have horder : replacements (⟨pid, .updates process patch, s,
          .file (.rename d.name .preferences), .ok u⟩ :: history) =
            replacements history ++ [(pid, patch)] := by
        rw [replacements_cons]
        rfl
      refine h.recast hr ?_ nofun (fun q r' hne hq hholds => ?_) (fun _ => ?_)
        (fun file bytes hsettled => ?_) ?_ (fun _ => hnot) ?_
      · rw [hfiles]
        exact hstaged.of_eq rfl rfl rfl
      · have hlock := h.holder q r' hq hholds
        rw [hholder] at hlock
        exact absurd (Option.some.inj hlock).symm hne
      · rw [hfiles]
        exact (congrFun hlocks .lock).trans hholder
      · rw [hfiles]
        refine ⟨hsettled.bounded.trans_eq hnext.symm, (congrFun hdata file).trans hsettled.data,
          fun q e he => ?_⟩
        rcases eq_or_ne q pid with rfl | hq
        · exact absurd he (by simp [Stage.next, Stage.draft])
        · exact hsettled.undrafted q e (by rwa [Function.update_of_ne hq] at he)
      · rw [hfiles, Files.content_leave, hcontent, hbytes, horder, List.map_append]
        exact .concat hsequentially hpatched
      · exact ⟨process, patch, replacements history, [], rfl, horder, hload.trans hsequentially.symm⟩

theorem syncDirectory_kept {read : Except FileError (List UInt8)} {answer : Except FileError Unit}
    (hstage : stage = .finished (.replaced read))
    (hexec : FileOp.Exec pid s.files .syncDirectory answer s'.files) :
    Invariant directory stored s' (⟨pid, task, s, .file .syncDirectory, answer⟩ :: history)
      (Function.update roles pid (some ⟨task, stage.next (.file .syncDirectory) answer⟩)) := by
  subst hstage
  have hmade := h.knows pid _ hr
  have hfiles : s'.files = s.files := hexec
  cases answer with
  | ok u => exact h.look hr rfl hfiles rfl (fun hholds => hholds) hmade
  | error error =>
    have hsame : Function.update (drafts roles) pid none = drafts roles := by
      rw [← show drafts roles pid = none from drafts_of_role hr, Function.update_eq_self]
    obtain ⟨process, patch, earlier, later, -, horder, -⟩ := hmade
    have hreplacements : replacements (⟨pid, task, s, .file .syncDirectory, .error error⟩ :: history) =
        replacements history := by
      rw [replacements_cons, replacement_of_not_renames rfl, Option.toList_none, List.append_nil]
    refine h.recast hr ?_ nofun (fun q r' _ hq hholds => ⟨?_, rfl⟩) (fun _ => ?_)
      (fun file bytes hsettled => ?_) ?_ nofun ⟨?_, _, List.mem_cons_self, rfl⟩
    · rw [Stage.next, Stage.draft, hsame, hfiles]
      exact h.staged
    · rw [hfiles]
      exact h.holder q r' hq hholds
    · rw [hfiles]
      exact h.holder pid _ hr trivial
    · rwa [Stage.next, Stage.draft, hsame, hfiles]
    · rw [hreplacements, hfiles]
      exact h.results
    · rw [Replaced, hreplacements, horder]
      simp

end Operations

/-- A call is made. -/
theorem Invariant.arrive (h : Invariant directory stored s history roles) (hfree : roles pid = none)
    (task : PreferencesTask) :
    Invariant directory stored s history (Function.update roles pid (some ⟨task, .outside⟩)) := by
  have hdrafts : drafts (Function.update roles pid (some ⟨task, .outside⟩)) = drafts roles := by
    have hnone : drafts roles pid = none := by rw [drafts, hfree, Option.bind_none]
    rw [drafts_update, Stage.draft, ← hnone, Function.update_eq_self]
  have hnot : ¬ Replaced history pid := by
    intro hmem
    obtain ⟨x, hx, rfl⟩ := List.mem_map.mp hmem
    obtain ⟨r, process, hr, -⟩ := h.known x.1 x.2 hx
    rw [hfree] at hr
    cases hr
  refine ⟨by rw [hdrafts]; exact h.staged, by rw [hdrafts]; exact h.temporary,
    fun q r hq hholds => ?_, h.results, by rw [hdrafts]; exact h.steady, fun q patch hmem => ?_,
    h.once, fun q r hq => ?_⟩
  · rcases role_cases hq with ⟨-, rfl⟩ | ⟨-, hq⟩
    · exact hholds.elim
    · exact h.holder q r hq hholds
  · obtain ⟨r, process, hq, htask⟩ := h.known q patch hmem
    refine ⟨r, process, ?_, htask⟩
    rwa [Function.update_of_ne]
    rintro rfl
    rw [hfree] at hq
    cases hq
  · rcases role_cases hq with ⟨rfl, rfl⟩ | ⟨-, hq⟩
    · exact hnot
    · exact h.knows q r hq

/-- Every operation that a call may perform keeps the invariant. -/
theorem Invariant.performed (h : Invariant directory stored s history roles)
    (hr : roles pid = some r) (hallows : r.stage.Allows directory r.task op)
    (hexec : PreferencesOp.Exec pid s op answer s') :
    Invariant directory stored s' (⟨pid, r.task, s, op, answer⟩ :: history)
      (Function.update roles pid (some (r.next op answer))) := by
  obtain ⟨task, stage⟩ := r
  have hknows := h.knows pid _ hr
  simp only at hallows hknows
  unfold Stage.Allows at hallows
  split at hallows
  -- before the lock
  · exact h.look hr rfl hexec.1 rfl (fun hholds => hholds) hknows
  · refine touch_kept h hr ?_ ?_ rfl
    · exact hexec.1
    · exact hknows
  · exact lock_kept h hr rfl hexec.1
  · obtain ⟨hfiles, htold⟩ := told_of_read h.results hexec.1
    exact h.look hr rfl hfiles rfl (fun hholds => hholds) ⟨hknows, _, List.prefix_rfl, htold⟩
  -- with the lock, and nothing read
  · obtain ⟨hfiles, htold⟩ := told_of_read h.results hexec.1
    exact h.look hr rfl hfiles rfl (fun hholds => hholds) ⟨hknows, htold⟩
  · exact unlock_kept h hr trivial rfl rfl hknows hexec.1
  -- with the lock, and no file in preparation
  · obtain ⟨-, rfl⟩ := hexec
    exact h.look hr rfl rfl rfl (fun hholds => hholds) hknows
  · exact createNew_kept h hr rfl trivial hexec.1
  · exact unlock_kept h hr trivial rfl rfl hknows.1 hexec.1
  -- with a file in preparation
  · exact write_kept h hr rfl hallows.1 hallows.2 hexec.1
  · exact h.look hr rfl hexec.1 rfl (fun hholds => hholds) hknows
  · exact rename_kept h hr rfl hallows.1 hallows.2 hexec.1
  · next read draft _ _ =>
    have hnext : Stage.next (.preparing read draft) (.file (.remove _)) answer =
        .preparing read none := by
      cases draft <;> rfl
    refine remove_kept h hr trivial trivial ?_ ?_ hexec.1
    · rw [hnext]
      exact ⟨rfl, trivial⟩
    · rw [hnext]
      exact hknows
  -- with the lock, after the file was replaced
  · exact syncDirectory_kept h hr rfl hexec.1
  · exact remove_kept h hr trivial trivial ⟨rfl, trivial⟩ hknows hexec.1
  · exact unlock_kept h hr trivial rfl rfl hknows hexec.1
  · exact hallows.elim

/-- **Every operation keeps the invariant.** -/
theorem preferences_kept (directory : String) (stored : Option (List UInt8)) :
    (preferences directory).Kept (discipline directory) (Returns directory)
      (Invariant directory stored) where
  perform {s history roles pid task r op answer s'} h hr hplays hallows hexec _ := by
    obtain rfl : r.task = task := hplays
    exact ⟨r.next op answer, rfl, rfl, h.performed hr hallows hexec⟩
  start _ _ _ _ _ hstarts _ := nomatch hstarts
  arrive {s history roles pid process} h hfree harrives := by
    obtain ⟨task, rfl⟩ := harrives
    exact ⟨⟨task, .outside⟩, ⟨rfl, text_follows directory task⟩, h.arrive hfree task⟩
  die _ _ _ hdies := hdies.elim
  drift _ hdrifts := hdrifts.elim

end Invariant

/-! ### Linearizability -/

section Linearizability

variable {directory : String} {s : PreferencesFiles} {c : PreferencesConfig}

theorem preferences_governed (hopened : s.Opened) (hrun : (preferences directory).Run s.idle c) :
    c.Governed (discipline directory) (Returns directory)
      (Invariant directory (s.files.content .preferences)) := by
  refine (preferences_kept directory _).reachable ⟨fun _ => none, ?_, fun _ => .none⟩ hrun
  refine ⟨.of_bounded hopened.bounded, ?_, ?_, ?_, ?_, ?_, .nil, ?_⟩
  · intro pid d hd
    cases hd
  · intro pid r hr
    cases hr
  · rw [Results, if_pos (by rfl)]
    rfl
  · intro event hmem
    cases hmem
  · intro pid patch hmem
    cases hmem
  · intro pid r hr
    cases hr

/-- **Updates follow one another**: the calls are explained by the order in which they have
replaced the file, in every run in which no call fails after it has replaced the file. -/
theorem updates_are_linearizable (hopened : s.Opened) (hrun : (preferences directory).Run s.idle c)
    (hsynced : ∀ event ∈ c.history, syncFails event.op event.answer = false) :
    ∃ order, Linearizes directory (s.files.content .preferences) c order := by
  obtain ⟨roles, h, hcasts⟩ := preferences_governed hopened hrun
  have hsync : ∀ event ∈ c.history, ¬ syncFails event.op event.answer = true := by
    intro event hmem htrue
    rw [hsynced event hmem] at htrue
    cases htrue
  refine ⟨replacements c.history, h.once, fun pid patch hmem => ?_, h.results,
    fun pid process patch after hprocess => ?_, fun pid result hprocess => ?_,
    fun initial hinitial => ?_, fun event hmem file hfile => (h.steady event hmem file hfile).data⟩
  · obtain ⟨r, process, hr, htask⟩ := h.known pid patch hmem
    obtain ⟨⟨kind, program⟩, hprocess, hplays, henacts⟩ := hcasts.process hr
    obtain rfl : kind = .updates process patch := hplays.symm.trans htask
    cases program with
    | none => exact henacts.elim
    | some program =>
      refine ⟨process, program, hprocess, ?_⟩
      rintro error rfl
      have hreplaced : Replaced c.history pid := List.mem_map_of_mem hmem
      have hknows := h.knows pid r hr
      rcases follows_pure.mp henacts with hstage | hstage | hstage
      · rw [hstage] at hknows
        exact hknows hreplaced
      · rw [hstage] at hknows
        exact hknows hreplaced
      · rw [hstage] at hknows
        obtain ⟨-, event, hevent, hfails⟩ := hknows
        exact hsync event hevent hfails
  · obtain ⟨r, hr, hplays, hfollows⟩ := hcasts.role hprocess
    obtain ⟨read, preferences, hstage, hload, hpatched⟩ := follows_pure.mp hfollows
    have hknows := h.knows pid r hr
    rw [hstage] at hknows
    obtain ⟨process', patch', earlier, later, htask, horder, hearlier⟩ := hknows
    obtain ⟨-, rfl⟩ := PreferencesTask.updates.inj (htask.symm.trans hplays)
    exact ⟨earlier, later, horder,
      sequentially_concat_eq_ok.mpr ⟨preferences, hearlier.symm.trans hload, hpatched⟩⟩
  · obtain ⟨r, hr, -, hfollows⟩ := hcasts.role hprocess
    obtain ⟨read, hstage, hload⟩ : ∃ read, r.stage = .saw read ∧ loaded directory read = result := by
      have hreturns := follows_pure.mp hfollows
      cases result with
      | ok after => exact hreturns
      | error error => exact hreturns
    have hknows := h.knows pid r hr
    rw [hstage] at hknows
    obtain ⟨-, earlier, hprefix, htold⟩ := hknows
    rcases htold with htold | htold
    · exact .inr ⟨earlier, hprefix, hload.symm.trans htold⟩
    · exact .inl (hload.symm.trans htold)
  · rw [h.results.loaded]
    by_cases hnone : (replacements c.history).map Prod.snd = []
    · rw [hnone]
      exact ⟨initial, (bind_pure _).trans hinitial⟩
    · have hresults := h.results
      rw [Results, if_neg hnone] at hresults
      obtain ⟨preferences, hsequentially, -⟩ := hresults
      exact ⟨preferences, hsequentially⟩

end Linearizability

/-! ### One call -/

section Call

/-- The step of the process `pid`. -/
def perform (faults : FileOp PreferencesName → Option Fault) (pid : ℕ) (s : PreferencesFiles) :
    (op : PreferencesOp) → op.Answer × PreferencesFiles
  | .file op => ((op.perform faults pid s.files).1, { s with files := (op.perform faults pid s.files).2 })
  | .nextSequence process => (s.sequence process, s.advance process)

variable (faults : FileOp PreferencesName → Option Fault) (directory : String)
  (task : PreferencesTask) (s : PreferencesFiles)

/-- What a call returns when nobody else makes one, and the files afterwards. -/
def outcome : Except String UserPreferences × PreferencesFiles :=
  (task.text directory).runWith (perform faults 0) s

variable {faults directory task s}

theorem exec_perform {pid : ℕ} (op : PreferencesOp) :
    PreferencesOp.Exec pid s op (perform faults pid s op).1 (perform faults pid s op).2 := by
  cases op with
  | file op => exact ⟨Lib.exec_perform faults pid s.files op, rfl⟩
  | nextSequence process => exact ⟨rfl, rfl⟩

theorem syncFails_perform (hsync : faults .syncDirectory = none) {pid : ℕ} (op : PreferencesOp) :
    syncFails op (perform faults pid s op).1 = false := by
  cases op with
  | file op =>
    cases op with
    | syncDirectory =>
      have hanswer : (perform faults pid s (.file .syncDirectory)).1 = .ok () := by
        simp only [perform, FileOp.perform, hsync, FileOp.succeed]
      rw [hanswer]
      rfl
    | _ => rfl
  | nextSequence process => rfl

/-- A call made by itself is a run of the system. -/
theorem exists_run {Good : (op : PreferencesOp) → op.Answer → Prop}
    (hgood : ∀ s op, Good op (perform faults 0 s op).1) :
    ∃ c, (preferences directory).Run s.idle c ∧ c.shared = (outcome faults directory task s).2 ∧
      c.processes = Function.update (fun _ => none) 0
        (some ⟨task, some (.done (outcome faults directory task s).1)⟩) ∧
      ∀ event ∈ c.history, Good event.op event.answer := by
  have hexec (s : PreferencesFiles) (op : PreferencesOp) :
      PreferencesOp.Exec 0 s op (perform faults 0 s op).1 (perform faults 0 s op).2 ∧
        Good op (perform faults 0 s op).1 := ⟨exec_perform op, hgood s op⟩
  have hsolo : Solo (fun s op answer s' => PreferencesOp.Exec 0 s op answer s' ∧ Good op answer)
      (task.text directory) s (.done (outcome faults directory task s).1)
      (outcome faults directory task s).2 := solo_runWith hexec _ s
  have harrives : (preferences directory).Arrives ⟨task, some (task.text directory)⟩ := ⟨task, rfl⟩
  have hfree : s.idle.processes 0 = none := rfl
  obtain ⟨c, hrun, hshared, hprocesses, hhistory⟩ :=
    Solo.arrive_good (fun _ _ => rfl) hfree harrives hsolo
  refine ⟨c, hrun, hshared, hprocesses, fun event hmem => (hhistory event hmem).resolve_left ?_⟩
  simp [PreferencesFiles.idle]

/-- **What one call does**: it changes nothing and fails, or it replaces the file by what its patch
makes of the preferences, and returns these if it does not fail after that. -/
theorem outcome_updates {process : ℕ} {patch : PreferencesPatch} (hopened : s.Opened) :
    ((outcome faults directory (.updates process patch) s).2.files.content .preferences =
        s.files.content .preferences ∧
      ∃ error, (outcome faults directory (.updates process patch) s).1 = .error error) ∨
    ∃ preferences after, loaded directory (found (s.files.content .preferences)) = .ok preferences ∧
      patched preferences patch = .ok after ∧
      (outcome faults directory (.updates process patch) s).2.files.content .preferences =
        some (preferencesText after) ∧
      ∀ updated, (outcome faults directory (.updates process patch) s).1 = .ok updated →
        updated = after := by
  obtain ⟨c, hrun, hshared, hprocesses, -⟩ :=
    @exists_run faults directory (.updates process patch) s (fun _ _ => True) fun _ _ => trivial
  obtain ⟨roles, h, hcasts⟩ := preferences_governed hopened hrun
  have hprocess : c.processes 0 = some ⟨.updates process patch,
      some (.done (outcome faults directory (.updates process patch) s).1)⟩ := by
    rw [hprocesses, Function.update_self]
  obtain ⟨r, hr, hplays, hfollows⟩ := hcasts.role hprocess
  have hreturns := follows_pure.mp hfollows
  have hknows := h.knows 0 r hr
  -- nobody else makes a call
  have hsole : ∀ x ∈ replacements c.history, x = (0, patch) := by
    rintro ⟨q, patch'⟩ hmem
    obtain ⟨r', process', hr', htask⟩ := h.known q patch' hmem
    rcases eq_or_ne q 0 with rfl | hne
    · obtain rfl := Option.some.inj (hr.symm.trans hr')
      obtain ⟨-, rfl⟩ := PreferencesTask.updates.inj (htask.symm.trans hplays)
      rfl
    · have hnone : c.processes q = none := by rw [hprocesses, Function.update_of_ne hne]
      rw [hcasts.none hnone] at hr'
      cases hr'
  have hresults := h.results
  rw [hshared] at hresults
  cases horder : replacements c.history with
  | nil =>
    rw [horder, List.map_nil, Results, if_pos rfl] at hresults
    refine .inl ⟨hresults, ?_⟩
    cases hresult : (outcome faults directory (.updates process patch) s).1 with
    | error error => exact ⟨error, rfl⟩
    | ok updated =>
      rw [hresult] at hreturns
      obtain ⟨read, preferences, hstage, -⟩ := hreturns
      rw [hstage] at hknows
      obtain ⟨process', patch', earlier, later, -, hcontains, -⟩ := hknows
      rw [horder] at hcontains
      simp at hcontains
  | cons x rest =>
    have hx := hsole x (by rw [horder]; exact List.mem_cons_self)
    have hrest : rest = [] := by
      cases rest with
      | nil => rfl
      | cons y rest =>
        have hy := hsole y (by rw [horder]; exact List.mem_cons_of_mem _ List.mem_cons_self)
        have honce := h.once
        rw [horder, hx, hy] at honce
        simp at honce
    rw [horder, hx, hrest, List.map_singleton, Results, if_neg (by simp)] at hresults
    obtain ⟨after, hsequentially, hcontent⟩ := hresults
    have hone : ([patch] : List PreferencesPatch) = [] ++ [patch] := rfl
    rw [hone] at hsequentially
    obtain ⟨preferences, hload, hpatched⟩ := sequentially_concat_eq_ok.mp hsequentially
    refine .inr ⟨preferences, after, (bind_pure _).symm.trans hload, hpatched, hcontent,
      fun updated hresult => ?_⟩
    rw [hresult] at hreturns
    obtain ⟨read, preferences', hstage, hread, hpatched'⟩ := hreturns
    rw [hstage] at hknows
    obtain ⟨process', patch', earlier, later, -, hcontains, htold⟩ := hknows
    rw [horder, hx, hrest] at hcontains
    obtain rfl : earlier = [] := by
      cases earlier with
      | nil => rfl
      | cons y earlier => simp at hcontains
    have hsame : preferences' = preferences := by
      rw [hread] at htold
      exact Except.ok.inj (htold.trans hload)
    rw [hsame, hpatched] at hpatched'
    exact (Except.ok.inj hpatched').symm

end Call

/-- A directory without files. -/
def emptyDirectory : PreferencesFiles :=
  ⟨⟨fun _ => none, fun _ => [], 0, fun _ => none, fun _ => ∅⟩, fun _ => 0⟩

theorem emptyDirectory_opened : emptyDirectory.Opened := by
  refine ⟨?_, rfl⟩
  intro name file hfile
  cases hfile

def gameModeOff : PreferencesPatch := ⟨none, none, none, some false⟩

theorem updates_are_linearizable_alone : ∃ c, (preferences "/wroid").Run emptyDirectory.idle c ∧
    c.processes 0 = some ⟨.updates 7 gameModeOff, some (.done (.ok { (default : UserPreferences) with
      gameMode := false }))⟩ ∧
    ∃ order, Linearizes "/wroid" (emptyDirectory.files.content .preferences) c order := by
  obtain ⟨c, hrun, -, hprocesses, hhistory⟩ :=
    @exists_run (fun _ => none) "/wroid" (.updates 7 gameModeOff) emptyDirectory
      (fun op answer => syncFails op answer = false) fun s op => syncFails_perform rfl op
  refine ⟨c, hrun, ?_, updates_are_linearizable emptyDirectory_opened hrun hhistory⟩
  rw [hprocesses]
  rfl

/-- The directory cannot be brought to the disk. -/
def syncFault : FileOp PreferencesName → Option Fault
  | .syncDirectory => some ⟨"Input/output error (os error 5)", 0⟩
  | _ => none

/-- A call that says it has failed has switched the game mode off. -/
theorem unsynced_update_is_applied : emptyDirectory.Opened ∧
    ∃ c, (preferences "/wroid").Run emptyDirectory.idle c ∧
      c.processes 0 = some ⟨.updates 7 gameModeOff,
        some (.done (.error "Input/output error (os error 5)"))⟩ ∧
      ¬ ∃ order, Linearizes "/wroid" (emptyDirectory.files.content .preferences) c order := by
  refine ⟨emptyDirectory_opened, ?_⟩
  obtain ⟨c, hrun, hshared, hprocesses, -⟩ :=
    @exists_run syncFault "/wroid" (.updates 7 gameModeOff) emptyDirectory
      (fun _ _ => True) fun _ _ => trivial
  have hfailed : c.processes 0 = some ⟨.updates 7 gameModeOff,
      some (.done (.error "Input/output error (os error 5)"))⟩ := by
    rw [hprocesses]
    rfl
  have hcontent : c.shared.files.content .preferences ≠ none := by
    rw [hshared]
    decide +kernel
  refine ⟨c, hrun, hfailed, ?_⟩
  rintro ⟨order, h⟩
  cases order with
  | nil => exact hcontent h.results
  | cons x order =>
    obtain ⟨process, program, hprocess, hdone⟩ := h.calls x.1 x.2 List.mem_cons_self
    rcases eq_or_ne x.1 0 with heq | hne
    · rw [heq, hfailed] at hprocess
      simp only [Option.some.injEq, Process.mk.injEq] at hprocess
      exact hdone _ hprocess.2.symm
    · rw [hprocesses, Function.update_of_ne hne] at hprocess
      cases hprocess

end Wroid.Preferences
