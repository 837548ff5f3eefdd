import Wroid.Editor.ProfileSave

/-!
# Saving a profile

A request prepares its document in the temporary file and then renames it.  All requests use the
same temporary file.  As long as a request opens it only when no other request is still preparing
it, the profile is always a complete document; if two requests prepare it at the same time, one
of them may publish what the other one has truncated.

## Main definitions

* `Role`, `discipline` — what a request knows, and what it may do.
* `Alone` — the temporary file is opened when nobody is preparing it.
* `Invariant` — the temporary file is one request's, and the profile is a published document.

## Main results

* `editor_kept` — every operation keeps the invariant.
* `saves_one_at_a_time` — **the profile is complete, and a request says so if it has published it**.
* `saves_tear_the_profile` — two requests at the same time leave the profile empty.
-/

namespace Wroid.ProfileSave

open Lib

/-! ### Roles -/

/-- What a request knows.  A request that has published remembers its body and its text. -/
inductive Role
  | idle
  | looked (bytes : List UInt8)
  | opened (file : ℕ)
  | written (file : ℕ) (bytes : List UInt8)
  | published (body bytes : List UInt8)
  | left

/-- The file that the request prepares. -/
def Role.draft : Role → Option (Draft SaveName)
  | .opened file => some ⟨.temporary, file, []⟩
  | .written file bytes => some ⟨.temporary, file, bytes⟩
  | .idle | .looked _ | .published .. | .left => none

def drafts (roles : ℕ → Option Role) (pid : ℕ) : Option (Draft SaveName) :=
  (roles pid).bind Role.draft

/-- The bytes are the text of the valid document in the body. -/
def Submits (codec : ProfileCodec) (body bytes : List UInt8) : Prop :=
  ∃ document, codec.fromBytes body = .ok document ∧ document.validate = .ok () ∧
    bytes = codec.text document

/-- The request `pid` with this body has published these bytes. -/
def Published (pid : ℕ) (body bytes : List UInt8) (history : List EditorEvent) : Prop :=
  ∃ before : EditorFiles, ⟨pid, body, before, .main (.rename .temporary .published), .ok ()⟩ ∈ history ∧
    before.main.content .temporary = some bytes

/-- The request `pid` has read these bytes in the profile. -/
def Looked (pid : ℕ) (bytes : List UInt8) (history : List EditorEvent) : Prop :=
  ∃ body before, (⟨pid, body, before, .main (.read .published), .ok bytes⟩ : EditorEvent) ∈ history

def Role.Knows (pid : ℕ) (history : List EditorEvent) : Role → Prop
  | .looked bytes => Looked pid bytes history
  | .published body bytes => Published pid body bytes history
  | .idle | .opened _ | .written .. | .left => True

section Discipline

variable (codec : ProfileCodec)

def Role.Allows (body : List UInt8) : Role → EditorOp → Prop
  | _, .assets _ => True
  | .idle, .main (.read .published) | .looked _, .main (.create .temporary) => True
  | .opened file, .main (.write file' bytes) => file' = file ∧ Submits codec body bytes
  | .written .., .main (.rename .temporary .published) | .written .., .main (.remove .temporary) =>
    True
  | _, _ => False

def Role.Turns (r : Role) : (op : EditorOp) → op.Answer → Role → Prop
  | .assets _, _, r' => r' = r
  | .main (.read _), .ok bytes, r' => r' = .looked bytes
  | .main (.create _), .ok file, r' => r' = .opened file
  | .main (.write file bytes), .ok _, r' => r' = .written file bytes
  | .main (.write ..), .error _, r' => r' = .left
  | .main (.rename ..), .ok _, r' => ∃ body bytes, r' = .published body bytes
  | .main (.remove _), _, r' => r' = .left
  | .main _, _, r' => r' = r

def discipline : Discipline (List UInt8) EditorOp EditorOp.Answer Role where
  Plays body
    | .written _ bytes => Submits codec body bytes
    | .published body' bytes => body' = body ∧ Submits codec body bytes
    | .idle | .looked _ | .opened _ | .left => True
  Rests _ _ := False
  Allows := Role.Allows codec
  Turns := Role.Turns

end Discipline

/-- The document was saved. -/
def Changed (reply : SaveReply) : Prop := ∃ available, reply = .saved "Profile saved" true available

/-- There was nothing to save. -/
def Unchanged (reply : SaveReply) : Prop :=
  ∃ available, reply = .saved "Profile unchanged" false available

/-- How a request may end. -/
structure Returns (codec : ProfileCodec) (body : List UInt8) (r : Role) (reply : SaveReply) : Prop where
  changed : Changed reply ↔ ∃ body bytes, r = .published body bytes
  unchanged : Unchanged reply →
    ∃ bytes, r = .looked bytes ∧ codec.fromBytes bytes = codec.fromBytes body

section Texts

variable {codec : ProfileCodec} {path assets backup : String} {body bytes : List UInt8}
  {document : ProfileDocument} {r : Role}

/-- A response that reports an error ends a request that has not published. -/
theorem returns_of_failed {reply : SaveReply} (hreply : ∀ message changed available,
    reply ≠ .saved message changed available) (hr : ∀ body bytes, r ≠ .published body bytes) :
    Returns codec body r reply where
  changed := by
    constructor
    · rintro ⟨available, heq⟩
      exact absurd heq (hreply _ _ _)
    · rintro ⟨body', bytes', heq⟩
      exact absurd heq (hr body' bytes')
  unchanged := by
    rintro ⟨available, heq⟩
    exact absurd heq (hreply _ _ _)

/-- The operations on the backup turn nothing. -/
theorem inAssets_follows {α : Type} (program : FileProgram SaveName α) :
    Follows (discipline codec) body (fun r' _ => r' = r) (inAssets program) r :=
  Follows.quiet (fun _ => ⟨trivial, fun _ _ hr' => hr'⟩) program

/-- Where the saving of the document ends. -/
def Saved (r : Role) : Except ProfileSaveError Unit → Prop
  | .ok _ => ∃ body bytes, r = .published body bytes
  | .error _ => ∀ body bytes, r ≠ .published body bytes

theorem saveToPath_follows (hdocument : codec.fromBytes body = .ok document)
    (hvalid : document.validate = .ok ()) : Follows (discipline codec) body Saved
      (inMain (document.saveToPath codec .temporary .published)) (.looked bytes) := by
  rw [ProfileDocument.saveToPath, hvalid]
  refine follows_perform.mpr ⟨trivial, fun created r₁ hr₁ => ?_⟩
  cases created with
  | error error =>
    obtain rfl : r₁ = .looked bytes := hr₁
    exact follows_pure.mpr fun _ _ hrole => by cases hrole
  | ok file =>
    obtain rfl : r₁ = .opened file := hr₁
    have hsubmits : Submits codec body (codec.text document) := ⟨document, hdocument, hvalid, rfl⟩
    refine follows_perform.mpr ⟨⟨rfl, hsubmits⟩, fun wrote r₂ hr₂ => ?_⟩
    cases wrote with
    | error error =>
      obtain rfl : r₂ = .left := hr₂
      exact follows_pure.mpr fun _ _ hrole => by cases hrole
    | ok u =>
      obtain rfl : r₂ = .written file (codec.text document) := hr₂
      refine follows_perform.mpr ⟨trivial, fun renamed r₃ hr₃ => ?_⟩
      cases renamed with
      | ok u => exact follows_pure.mpr hr₃
      | error error =>
        obtain rfl : r₃ = .written file (codec.text document) := hr₃
        refine follows_perform.mpr ⟨trivial, fun removed r₄ hr₄ => ?_⟩
        obtain rfl : r₄ = .left := hr₄
        exact follows_pure.mpr fun _ _ hrole => by cases hrole

/-- Where the reading of the current profile ends. -/
def Loaded (codec : ProfileCodec) (r : Role) : Except ProfileLoadError ProfileDocument → Prop
  | .ok current => ∃ bytes, r = .looked bytes ∧ codec.fromBytes bytes = .ok current
  | .error _ => ∀ body bytes, r ≠ .published body bytes

theorem loadFromPath_follows : Follows (discipline codec) body (Loaded codec)
    (inMain (loadFromPath codec .published)) .idle := by
  refine follows_perform.mpr ⟨trivial, fun read r₁ hr₁ => ?_⟩
  cases read with
  | error error =>
    obtain rfl : r₁ = .idle := hr₁
    exact follows_pure.mpr fun _ _ hrole => by cases hrole
  | ok bytes =>
    obtain rfl : r₁ = .looked bytes := hr₁
    refine follows_pure.mpr ?_
    cases hload : codec.load (.ok bytes) with
    | error error => exact nofun
    | ok current => exact ⟨bytes, rfl, codec.load_ok_iff.mp hload⟩

/-- Where the saving with a backup ends. -/
def SavedWithBackup (codec : ProfileCodec) (body : List UInt8) (r : Role) : Except String Bool → Prop
  | .ok true => ∃ body bytes, r = .published body bytes
  | .ok false => ∃ bytes, r = .looked bytes ∧ codec.fromBytes bytes = codec.fromBytes body
  | .error _ => ∀ body bytes, r ≠ .published body bytes

theorem saveProfileWithBackup_follows (hdocument : codec.fromBytes body = .ok document)
    (hvalid : document.validate = .ok ()) : Follows (discipline codec) body (SavedWithBackup codec body)
      (saveProfileWithBackup codec path assets backup document) .idle := by
  refine .bind (loadFromPath_follows.mono fun r₁ loaded hr₁ => ?_)
  cases loaded with
  | error error => exact follows_pure.mpr hr₁
  | ok current =>
    obtain ⟨bytes, rfl, hcurrent⟩ := hr₁
    cases hold : current.validate with
    | error errors =>
      simp only [hold]
      exact follows_pure.mpr fun _ _ hrole => by cases hrole
    | ok u =>
      simp only [hold]
      refine .ite (fun heq => follows_pure.mpr ?_) fun _ => .bind ?_
      · exact ⟨bytes, rfl, by rw [hcurrent, heq, hdocument]⟩
      refine (inAssets_follows _).mono fun r₂ prepared hr₂ => ?_
      obtain rfl := hr₂
      cases prepared with
      | error error => exact follows_pure.mpr fun _ _ hrole => by cases hrole
      | ok u =>
        refine .bind ((inAssets_follows _).mono fun r₃ retained hr₃ => ?_)
        obtain rfl := hr₃
        cases retained with
        | error error => exact follows_pure.mpr fun _ _ hrole => by cases hrole
        | ok u =>
          refine .bind ((saveToPath_follows hdocument hvalid).mono fun r₄ saved hr₄ => ?_)
          cases saved with
          | error error => exact follows_pure.mpr hr₄
          | ok u => exact follows_pure.mpr hr₄

theorem putProfile_follows (path assets backup : String) (body : List UInt8) :
    Follows (discipline codec) body (Returns codec body) (putProfile codec path assets backup body)
      .idle := by
  have hfailed : ∀ {reply}, (∀ message changed available, reply ≠ .saved message changed available) →
      Follows (discipline codec) body (Returns codec body) (pure reply) Role.idle :=
    fun hreply => follows_pure.mpr (returns_of_failed hreply nofun)
  refine .ite (fun _ => hfailed nofun) fun _ => ?_
  cases hdocument : codec.fromBytes body with
  | error error => exact hfailed nofun
  | ok document =>
    simp only
    cases hvalid : document.validate with
    | error errors => exact hfailed nofun
    | ok u =>
      refine .bind ((saveProfileWithBackup_follows hdocument hvalid).mono fun r result hr => ?_)
      cases result with
      | error error => exact follows_pure.mpr (returns_of_failed nofun hr)
      | ok changed =>
        refine .bind ((inAssets_follows _).mono fun r' available hr' => follows_pure.mpr ?_)
        obtain rfl := hr'
        cases changed with
        | true => exact ⟨⟨fun _ => hr, fun _ => ⟨available, rfl⟩⟩, by simp [Unchanged]⟩
        | false =>
          obtain ⟨bytes, rfl, hbytes⟩ := hr
          exact ⟨⟨by simp [Changed], nofun⟩, fun _ => ⟨bytes, rfl, hbytes⟩⟩

end Texts

/-! ### The invariant -/

/-- The temporary file is opened when no request is preparing it. -/
def Alone (_ : ℕ) (files : EditorFiles) : EditorOp → Prop
  | .main (.create .temporary) => files.main.stagers .temporary = ∅
  | _ => True

/-- The bytes are those of the profile at the start, or a request has published them. -/
def Legitimate (codec : ProfileCodec) (original : List UInt8) (history : List EditorEvent)
    (bytes : List UInt8) : Prop :=
  bytes = original ∨ ∃ pid body, Published pid body bytes history ∧ Submits codec body bytes

structure Invariant (codec : ProfileCodec) (original : List UInt8) (files : EditorFiles)
    (history : List EditorEvent) (roles : ℕ → Option Role) : Prop where
  staged : files.main.Staged (drafts roles)
  sole : files.main.Sole .temporary
  preparing : ∀ pid d, drafts roles pid = some d → pid ∈ files.main.stagers .temporary
  content : ∃ bytes, files.main.content .published = some bytes ∧
    Legitimate codec original history bytes
  knows : ∀ pid r, roles pid = some r → r.Knows pid history
  done : ∀ pid body bytes, Published pid body bytes history →
    ∃ body' bytes', roles pid = some (.published body' bytes')

section Invariant

variable {codec : ProfileCodec} {original : List UInt8} {files files' : EditorFiles}
  {history : List EditorEvent} {event : EditorEvent} {roles : ℕ → Option Role} {pid q : ℕ}
  {r r' : Role} {body bytes : List UInt8}

theorem Published.cons (h : Published q body bytes history) :
    Published q body bytes (event :: history) := by
  obtain ⟨before, hmem, hbytes⟩ := h
  exact ⟨before, List.mem_cons_of_mem _ hmem, hbytes⟩

theorem Looked.cons (h : Looked q bytes history) : Looked q bytes (event :: history) := by
  obtain ⟨body, before, hmem⟩ := h
  exact ⟨body, before, List.mem_cons_of_mem _ hmem⟩

theorem Role.Knows.cons (h : r.Knows q history) : r.Knows q (event :: history) := by
  cases r with
  | looked bytes => exact Looked.cons h
  | published body bytes => exact Published.cons h
  | idle | opened | written | left => trivial

theorem Legitimate.cons (h : Legitimate codec original history bytes) :
    Legitimate codec original (event :: history) bytes :=
  h.imp_right fun ⟨q, body, hpublished, hsubmits⟩ => ⟨q, body, hpublished.cons, hsubmits⟩

/-- The event publishes nothing. -/
def Quiet (event : EditorEvent) : Prop := ∀ pid body before,
  event ≠ ⟨pid, body, before, .main (.rename .temporary .published), .ok ()⟩

theorem Published.of_cons (h : Published q body bytes (event :: history)) (hquiet : Quiet event) :
    Published q body bytes history := by
  obtain ⟨before, hmem, hbytes⟩ := h
  rcases List.mem_cons.mp hmem with heq | hmem
  · exact absurd heq.symm (hquiet _ _ _)
  · exact ⟨before, hmem, hbytes⟩

theorem Published.of_cons_of_ne (h : Published q body bytes (event :: history)) (hne : q ≠ event.pid) :
    Published q body bytes history := by
  obtain ⟨before, hmem, hbytes⟩ := h
  rcases List.mem_cons.mp hmem with rfl | hmem
  · exact absurd rfl hne
  · exact ⟨before, hmem, hbytes⟩

@[simp] theorem drafts_update (roles : ℕ → Option Role) (pid : ℕ) (r : Role) :
    drafts (Function.update roles pid (some r)) = Function.update (drafts roles) pid r.draft := by
  funext q
  rcases eq_or_ne q pid with rfl | hne
  · simp [drafts]
  · simp [drafts, hne]

theorem drafts_of_role (hr : roles pid = some r) : drafts roles pid = r.draft := by
  rw [drafts, hr, Option.bind_some]

/-- Every draft is one of the temporary file. -/
theorem drafts_name {d : Draft SaveName} (h : drafts roles q = some d) : d.name = .temporary := by
  obtain ⟨r, -, hd⟩ := Option.bind_eq_some_iff.mp h
  cases r with
  | opened | written =>
    obtain rfl := Option.some.inj hd
    rfl
  | idle | looked | published | left => cases hd

theorem undrafted_published (roles : ℕ → Option Role) :
    Files.Undrafted (drafts roles) .published := by
  intro q d hd
  rw [drafts_name hd]
  exact nofun

namespace Invariant

/-- The process `pid` takes the role `r'`. -/
theorem recast (h : Invariant codec original files history roles)
    (hstaged : files'.main.Staged (Function.update (drafts roles) pid r'.draft))
    (hsole : files'.main.Sole .temporary)
    (hothers : ∀ q, q ≠ pid → q ∈ files.main.stagers .temporary → q ∈ files'.main.stagers .temporary)
    (hown : r'.draft ≠ none → pid ∈ files'.main.stagers .temporary)
    (hcontent : ∃ bytes, files'.main.content .published = some bytes ∧
      Legitimate codec original (event :: history) bytes)
    (hknows : r'.Knows pid (event :: history))
    (hdone : ∀ q body bytes, Published q body bytes (event :: history) →
      Published q body bytes history ∧ q ≠ pid ∨ q = pid ∧ ∃ body' bytes', r' = .published body' bytes') :
    Invariant codec original files' (event :: history) (Function.update roles pid (some r')) where
  staged := by rwa [drafts_update]
  sole := hsole
  preparing q d hd := by
    rw [drafts_update] at hd
    rcases eq_or_ne q pid with rfl | hne
    · rw [Function.update_self] at hd
      exact hown (by simp [hd])
    · rw [Function.update_of_ne hne] at hd
      exact hothers q hne (h.preparing q d hd)
  content := hcontent
  knows q r hq := by
    rcases eq_or_ne q pid with rfl | hne
    · rw [Function.update_self, Option.some.injEq] at hq
      exact hq ▸ hknows
    · rw [Function.update_of_ne hne] at hq
      exact (h.knows q r hq).cons
  done q body bytes hq := by
    rcases hdone q body bytes hq with ⟨hpublished, hne⟩ | ⟨rfl, body', bytes', rfl⟩
    · rw [Function.update_of_ne hne]
      exact h.done q body bytes hpublished
    · exact ⟨body', bytes', Function.update_self ..⟩

/-- What the event leaves to be done, if it publishes nothing. -/
theorem done_of_quiet (h : Invariant codec original files history roles) (hr : roles pid = some r)
    (hquiet : Quiet event) (hstays : (∃ body bytes, r = .published body bytes) → r' = r) :
    ∀ q body bytes, Published q body bytes (event :: history) →
      Published q body bytes history ∧ q ≠ pid ∨
        q = pid ∧ ∃ body' bytes', r' = .published body' bytes' := by
  intro q body bytes hq
  have hpublished := hq.of_cons hquiet
  rcases eq_or_ne q pid with rfl | hne
  · obtain ⟨body', bytes', hrole⟩ := h.done q body bytes hpublished
    obtain rfl : r = .published body' bytes' := Option.some.inj (hr.symm.trans hrole)
    exact .inr ⟨rfl, body', bytes', hstays ⟨body', bytes', rfl⟩⟩
  · exact .inl ⟨hpublished, hne⟩

/-- An operation that does not change the directory of the profile. -/
theorem look (h : Invariant codec original files history roles) (hr : roles pid = some r)
    (hmain : files'.main = files.main) (hquiet : Quiet event) (hdraft : r'.draft = r.draft)
    (hknows : r'.Knows pid (event :: history))
    (hstays : (∃ body bytes, r = .published body bytes) → r' = r) :
    Invariant codec original files' (event :: history) (Function.update roles pid (some r')) := by
  obtain ⟨bytes, hcontent, hlegitimate⟩ := h.content
  refine h.recast ?_ (hmain ▸ h.sole) (fun q _ hq => hmain ▸ hq) (fun hne => ?_)
    ⟨bytes, hmain ▸ hcontent, hlegitimate.cons⟩ hknows (h.done_of_quiet hr hquiet hstays)
  · rw [hmain, hdraft, ← drafts_of_role hr, Function.update_eq_self]
    exact h.staged
  · rw [hdraft, ← drafts_of_role hr] at hne
    obtain ⟨d, hd⟩ := Option.ne_none_iff_exists'.mp hne
    exact hmain ▸ h.preparing pid d hd

/-- Nobody else prepares the file that a request prepares. -/
theorem undrafted_temporary (h : Invariant codec original files history roles) {d : Draft SaveName}
    (hd : drafts roles pid = some d) :
    Files.Undrafted (Function.update (drafts roles) pid none) .temporary := by
  intro q e he
  rcases eq_or_ne q pid with rfl | hne
  · simp at he
  · rw [Function.update_of_ne hne] at he
    exact absurd (h.staged.alone q pid e d he hd ((drafts_name he).trans (drafts_name hd).symm)) hne

end Invariant

/-- What an operation of the process `pid` has to keep. -/
def TurnKept (codec : ProfileCodec) (original : List UInt8) (files files' : EditorFiles)
    (history : List EditorEvent) (roles : ℕ → Option Role) (pid : ℕ) (body : List UInt8) (r : Role)
    (op : EditorOp) (answer : op.Answer) : Prop :=
  ∃ r', r.Turns op answer r' ∧ (discipline codec).Plays body r' ∧ Invariant codec original files'
    (⟨pid, body, files, op, answer⟩ :: history) (Function.update roles pid (some r'))

section Operations

variable (h : Invariant codec original files history roles) (hr : roles pid = some r)
  (hplays : (discipline codec).Plays body r)

include h hr hplays

/-- An operation that turns nothing, and does not change the directory of the profile. -/
theorem quiet_kept {op : EditorOp} {answer : op.Answer} (hmain : files'.main = files.main)
    (hquiet : Quiet ⟨pid, body, files, op, answer⟩) (hturns : r.Turns op answer r) :
    TurnKept codec original files files' history roles pid body r op answer :=
  ⟨r, hturns, hplays, h.look hr hmain hquiet rfl (h.knows pid r hr).cons fun _ => rfl⟩

theorem read_kept {answer : Except FileError (List UInt8)} (hallows : r.Allows codec body (.main (.read .published)))
    (hexec : FileOp.Exec pid files.main (.read .published) answer files'.main) :
    TurnKept codec original files files' history roles pid body r (.main (.read .published)) answer := by
  cases r with
  | idle =>
    cases answer with
    | error error => exact quiet_kept h hr hplays hexec.2 nofun rfl
    | ok bytes =>
      exact ⟨.looked bytes, rfl, trivial, h.look hr hexec.2 nofun rfl
        ⟨body, files, List.mem_cons_self⟩ fun ⟨_, _, heq⟩ => nomatch heq⟩
  | looked | opened | written | published | left => exact hallows.elim

theorem create_kept {answer : Except FileError ℕ} (halone : files.main.stagers .temporary = ∅)
    (hallows : r.Allows codec body (.main (.create .temporary)))
    (hexec : FileOp.Exec pid files.main (.create .temporary) answer files'.main) :
    TurnKept codec original files files' history roles pid body r (.main (.create .temporary)) answer := by
  cases r with
  | looked bytes =>
    cases answer with
    | error error => exact quiet_kept h hr hplays hexec nofun rfl
    | ok file =>
      obtain ⟨rfl, hmain⟩ := hexec
      have hfree : Files.Undrafted (Function.update (drafts roles) pid none) .temporary := by
        intro q d hd
        rcases eq_or_ne q pid with rfl | hne
        · simp at hd
        · rw [Function.update_of_ne hne] at hd
          exact absurd (h.preparing q d hd) (by simp [halone])
      have hstaged := h.staged.create h.sole hfree
      obtain ⟨bytes, hcontent, hlegitimate⟩ := h.content
      have hne : SaveName.published ≠ .temporary := nofun
      refine ⟨_, rfl, trivial, h.recast (by rwa [hmain]) ?_ (fun q hne hq => ?_) (fun _ => ?_)
        ⟨bytes, ?_, hlegitimate.cons⟩ trivial (h.done_of_quiet hr nofun fun ⟨_, _, heq⟩ => nomatch heq)⟩
      all_goals rw [hmain]
      · have hself : ∀ draft, Function.update (drafts roles) pid (some draft) pid = some draft :=
          fun _ => Function.update_self ..
        exact hstaged.sole_name (hself _)
      · rw [Files.stagers_create]
        exact Set.mem_insert_of_mem _ hq
      · rw [Files.stagers_create]
        exact Set.mem_insert ..
      · rw [Files.content_create pid h.staged.bounded h.sole hne, hcontent]
  | idle | opened | written | published | left => exact hallows.elim

theorem write_kept {file : ℕ} {bytes : List UInt8} {answer : Except FileError Unit}
    (hallows : r.Allows codec body (.main (.write file bytes)))
    (hexec : FileOp.Exec pid files.main (.write file bytes) answer files'.main) :
    TurnKept codec original files files' history roles pid body r (.main (.write file bytes)) answer := by
  cases r with
  | opened file' =>
    obtain ⟨rfl, hsubmits⟩ := hallows
    have hd : drafts roles pid = some ⟨.temporary, file, []⟩ := drafts_of_role hr
    have hpreparing := h.preparing pid _ hd
    have hstaged := h.staged.write hd
    obtain ⟨old, hcontent, hlegitimate⟩ := h.content
    have hne : SaveName.published ≠ .temporary := nofun
    have hold (part : List UInt8) : (files.main.store file part).content .published = some old :=
      (Files.content_store part (h.staged.entry_ne hd hne)).trans hcontent
    cases answer with
    | ok u =>
      have hmain : files'.main = files.main.store file bytes := hexec
      simp only [List.drop_nil, List.append_nil] at hstaged
      refine ⟨_, rfl, hsubmits, h.recast (by rw [hmain]; exact hstaged bytes) ?_ (fun q _ hq => ?_)
        (fun _ => ?_) ⟨old, ?_, hlegitimate.cons⟩ trivial
          (h.done_of_quiet hr nofun fun ⟨_, _, heq⟩ => nomatch heq)⟩
      all_goals rw [hmain]
      · exact h.sole
      · exact hq
      · exact hpreparing
      · exact hold bytes
    | error error =>
      obtain ⟨part, -, hmain⟩ := hexec
      have hleft := (hstaged part).drop pid
      rw [Function.update_idem] at hleft
      refine ⟨_, rfl, trivial, h.recast (by rw [hmain]; exact hleft.of_eq rfl rfl rfl) ?_
        (fun q hne hq => ?_) (fun hne => absurd rfl hne) ⟨old, ?_, hlegitimate.cons⟩ trivial
          (h.done_of_quiet hr nofun fun ⟨_, _, heq⟩ => nomatch heq)⟩
      all_goals rw [hmain]
      · exact h.sole
      · exact ⟨hq, hne⟩
      · exact hold part
  | idle | looked | written | published | left => exact hallows.elim

theorem rename_kept {answer : Except FileError Unit}
    (hallows : r.Allows codec body (.main (.rename .temporary .published)))
    (hexec : FileOp.Exec pid files.main (.rename .temporary .published) answer files'.main) :
    TurnKept codec original files files' history roles pid body r
      (.main (.rename .temporary .published)) answer := by
  cases r with
  | written file bytes =>
    cases answer with
    | error error => exact quiet_kept h hr hplays hexec nofun rfl
    | ok u =>
      obtain ⟨-, hmain⟩ := hexec
      have hd : drafts roles pid = some ⟨.temporary, file, bytes⟩ := drafts_of_role hr
      have hne : SaveName.published ≠ .temporary := nofun
      obtain ⟨hstaged, hcontent, hgone⟩ := h.staged.rename hd hne (undrafted_published roles)
      have hpublished : Published pid body bytes (⟨pid, body, files, .main (.rename .temporary .published),
          .ok ()⟩ :: history) := ⟨files, List.mem_cons_self, h.staged.content_draft hd⟩
      refine ⟨.published body bytes, ⟨body, bytes, rfl⟩, ⟨rfl, hplays⟩, h.recast
        (by rw [hmain]; exact hstaged.of_eq rfl rfl rfl) ?_ (fun q hne hq => ?_)
          (fun hne => absurd rfl hne) ⟨bytes, ?_, .inr ⟨pid, body, hpublished, hplays⟩⟩ hpublished
            fun q body' bytes' hq => ?_⟩
      · rw [hmain]
        exact Files.sole_of_none hgone
      · rw [hmain, Files.stagers_leave, Files.stagers_rename]
        exact ⟨hq, hne⟩
      · rw [hmain]
        exact hcontent
      · rcases eq_or_ne q pid with rfl | hne
        · exact .inr ⟨rfl, body, bytes, rfl⟩
        · exact .inl ⟨hq.of_cons_of_ne hne, hne⟩
  | idle | looked | opened | published | left => exact hallows.elim

theorem remove_kept {answer : Except FileError Unit}
    (hallows : r.Allows codec body (.main (.remove .temporary)))
    (hexec : FileOp.Exec pid files.main (.remove .temporary) answer files'.main) :
    TurnKept codec original files files' history roles pid body r (.main (.remove .temporary)) answer := by
  cases r with
  | written file bytes =>
    have hd : drafts roles pid = some ⟨.temporary, file, bytes⟩ := drafts_of_role hr
    have hne : SaveName.published ≠ .temporary := nofun
    obtain ⟨old, hcontent, hlegitimate⟩ := h.content
    cases answer with
    | ok u =>
      have hmain : files'.main = (files.main.remove .temporary).leave pid .temporary := hexec
      have hstaged := h.staged.remove (h.undrafted_temporary hd)
      refine ⟨.left, rfl, trivial, h.recast (by rw [hmain]; exact hstaged.of_eq rfl rfl rfl) ?_
        (fun q hne hq => ?_) (fun hne => absurd rfl hne) ⟨old, ?_, hlegitimate.cons⟩ trivial
          (h.done_of_quiet hr nofun fun ⟨_, _, heq⟩ => nomatch heq)⟩
      all_goals rw [hmain]
      · exact Files.sole_of_none (Files.entry_remove files.main .temporary)
      · rw [Files.stagers_leave]
        exact ⟨hq, hne⟩
      · rw [Files.content_leave, Files.content_remove hne, hcontent]
    | error error =>
      have hmain : files'.main = files.main.leave pid .temporary := hexec
      refine ⟨.left, rfl, trivial, h.recast (by rw [hmain]; exact (h.staged.drop pid).of_eq rfl rfl rfl)
        ?_ (fun q hne hq => ?_) (fun hne => absurd rfl hne) ⟨old, ?_, hlegitimate.cons⟩ trivial
          (h.done_of_quiet hr nofun fun ⟨_, _, heq⟩ => nomatch heq)⟩
      all_goals rw [hmain]
      · exact h.sole
      · rw [Files.stagers_leave]
        exact ⟨hq, hne⟩
      · exact hcontent
  | idle | looked | opened | published | left => exact hallows.elim

end Operations

/-- The invariant of all requests. -/
theorem editor_kept (codec : ProfileCodec) (path assets backup : String) (original : List UInt8) :
    ((profileEditor codec path assets backup).restrict Alone).Kept (discipline codec) (Returns codec)
      (Invariant codec original) where
  perform {files history roles pid body r op answer files'} h hr hplays hallows hexec _ := by
    obtain ⟨hexec, halone⟩ := hexec
    cases op with
    | assets op =>
      have hquiet : Quiet ⟨pid, body, files, .assets op, answer⟩ := nofun
      exact quiet_kept h hr hplays hexec.2 hquiet rfl
    | main op =>
      have hmain := hexec.1
      cases op with
      | read name =>
        cases name with
        | published => exact read_kept h hr hplays hallows hmain
        | temporary => cases r <;> exact hallows.elim
      | create name =>
        cases name with
        | temporary => exact create_kept h hr hplays halone hallows hmain
        | published => cases r <;> exact hallows.elim
      | write file bytes => exact write_kept h hr hplays hallows hmain
      | rename old new =>
        cases old with
        | published => cases r <;> exact hallows.elim
        | temporary =>
          cases new with
          | published => exact rename_kept h hr hplays hallows hmain
          | temporary => cases r <;> exact hallows.elim
      | remove name =>
        cases name with
        | temporary => exact remove_kept h hr hplays hallows hmain
        | published => cases r <;> exact hallows.elim
      | createNew | touch | sync | link | present | setPermissions | createDirectory | syncDirectory
      | lock | unlock => cases r <;> exact hallows.elim
  start _ _ _ _ _ hstarts _ := nomatch hstarts
  arrive {files history roles pid process} h hfree harrives := by
    obtain ⟨body, rfl⟩ := harrives
    refine ⟨.idle, ⟨trivial, putProfile_follows path assets backup body⟩, ?_⟩
    have hdrafts : drafts (Function.update roles pid (some .idle)) = drafts roles := by
      rw [drafts_update, show Role.idle.draft = drafts roles pid by simp [drafts, hfree, Role.draft],
        Function.update_eq_self]
    refine ⟨by rw [hdrafts]; exact h.staged, h.sole, by rw [hdrafts]; exact h.preparing, h.content,
      fun q r hq => ?_, fun q body bytes hq => ?_⟩
    · rcases eq_or_ne q pid with rfl | hne
      · rw [Function.update_self, Option.some.injEq] at hq
        subst hq
        trivial
      · exact h.knows q r (by rwa [Function.update_of_ne hne] at hq)
    · obtain ⟨body', bytes', hrole⟩ := h.done q body bytes hq
      have hne : q ≠ pid := by
        rintro rfl
        cases hfree.symm.trans hrole
      exact ⟨body', bytes', (Function.update_of_ne hne _ _).trans hrole⟩
  die _ _ _ hdies := hdies.elim
  drift _ hdrifts := hdrifts.elim

end Invariant

/-! ### Safety -/

/-- **The profile is always one complete document**, the one at the start or one that a request
submitted, in every run in which a request opens the temporary file only when no other request
is preparing it.  A request reports that it has changed the profile if and only if it has
published its own document, and that the profile is unchanged only if it has found it there. -/
theorem saves_one_at_a_time {codec : ProfileCodec} {path assets backup : String} {files : EditorFiles}
    {original : List UInt8} (hopened : files.Opened original) {c : EditorConfig}
    (hrun : ((profileEditor codec path assets backup).restrict Alone).Run files.idle c) :
    (∃ bytes, c.shared.main.content .published = some bytes ∧
      Legitimate codec original c.history bytes) ∧
    ∀ pid body reply, c.processes pid = some ⟨body, some (.done reply)⟩ →
      (Changed reply ↔ ∃ bytes, Published pid body bytes c.history ∧ Submits codec body bytes) ∧
      (Unchanged reply → ∃ bytes, Looked pid bytes c.history ∧
        codec.fromBytes bytes = codec.fromBytes body) := by
  have hstart : files.idle.Governed (discipline codec) (Returns codec) (Invariant codec original) := by
    refine ⟨fun _ => none, ?_, fun _ => .none⟩
    refine ⟨Files.Staged.of_bounded hopened.bounded, hopened.sole, nofun,
      ⟨original, hopened.content, .inl rfl⟩, nofun, ?_⟩
    rintro pid body bytes ⟨before, hmem, -⟩
    cases hmem
  obtain ⟨roles, h, hcasts⟩ := (editor_kept codec path assets backup original).reachable hstart hrun
  refine ⟨h.content, fun pid body reply hprocess => ?_⟩
  obtain ⟨r, hr, hplays, hfollows⟩ := hcasts.role hprocess
  have hreturns : Returns codec body r reply := follows_pure.mp hfollows
  refine ⟨⟨fun hchanged => ?_, ?_⟩, fun hunchanged => ?_⟩
  · obtain ⟨body', bytes, rfl⟩ := hreturns.changed.mp hchanged
    obtain ⟨rfl, hsubmits⟩ := hplays
    exact ⟨bytes, h.knows pid _ hr, hsubmits⟩
  · rintro ⟨bytes, hpublished, -⟩
    obtain ⟨body', bytes', hrole⟩ := h.done pid body bytes hpublished
    exact hreturns.changed.mpr ⟨body', bytes', Option.some.inj (hr.symm.trans hrole)⟩
  · obtain ⟨bytes, rfl, hbytes⟩ := hreturns.unchanged hunchanged
    exact ⟨bytes, h.knows pid _ hr, hbytes⟩

/-! ### Two requests at the same time -/

section Requests

variable {codec : ProfileCodec} {path assets backup : String} {files : EditorFiles}
  {body bytes : List UInt8} {document current : ProfileDocument} {pid : ℕ}
  {Exec : EditorFiles → (op : EditorOp) → op.Answer → EditorFiles → Prop}

theorem solo_main {α : Type} {op : FileOp SaveName} {next : op.Answer → EditorProgram α}
    {program : EditorProgram α} {files' : EditorFiles} (answer : op.Answer) {main' : Files SaveName}
    (hexec : Exec files (.main op) answer ⟨main', files.assets⟩)
    (hrest : Solo Exec (next answer) ⟨main', files.assets⟩ program files') :
    Solo Exec (.perform (.main op) next) files program files' := .perform hexec hrest

theorem solo_assets {α : Type} {op : FileOp SaveName} {next : op.Answer → EditorProgram α}
    {program : EditorProgram α} {files' : EditorFiles} (answer : op.Answer) {assets' : Files SaveName}
    (hexec : Exec files (.assets op) answer ⟨files.main, assets'⟩)
    (hrest : Solo Exec (next answer) ⟨files.main, assets'⟩ program files') :
    Solo Exec (.perform (.assets op) next) files program files' := .perform hexec hrest

section Before

-- what a request does before it saves its document, it may do at any time
variable (hexec : ∀ {files op answer files'}, EditorOp.Exec pid files op answer files' →
  Alone pid files op → Exec files op answer files')

include hexec

theorem solo_load (hcontent : files.main.content .published = some bytes)
    (hcurrent : codec.fromBytes bytes = .ok current) :
    Solo Exec (inMain (loadFromPath codec .published)) files (.done (.ok current)) files := by
  rw [← codec.load_ok_iff.mpr hcurrent]
  exact solo_main (.ok bytes) (hexec ⟨⟨hcontent, rfl⟩, rfl⟩ trivial) (.refl ..)

theorem solo_inAssets {α : Type} {program program' : FileProgram SaveName α} {s s' : Files SaveName}
    (h : Solo (FileOp.Exec pid) program s program' s') :
    Solo Exec (inAssets program) ⟨files.main, s⟩ (inAssets program') ⟨files.main, s'⟩ :=
  h.embed (EditorFiles.mk files.main) (fun _ answer => answer) (fun _ _ => rfl)
    fun h => hexec ⟨h, rfl⟩ trivial

theorem solo_retain (hvalid : current.validate = .ok ()) : ∃ assets', Solo Exec
    (inAssets (current.saveToPath codec .temporary .published)) files (.done (.ok ()))
      ⟨files.main, assets'⟩ :=
  ⟨_, solo_inAssets hexec (solo_saveToPath codec hvalid pid files.assets .temporary .published)⟩

theorem solo_saveProfileWithBackup (hcontent : files.main.content .published = some bytes)
    (hcurrent : codec.fromBytes bytes = .ok current) (hold : current.validate = .ok ())
    (hne : current ≠ document) : ∃ (assets' : Files SaveName)
      (save : Except ProfileSaveError Unit → EditorProgram (Except String Bool)),
      Solo Exec (saveProfileWithBackup codec path assets backup document) files
        (inMain (document.saveToPath codec .temporary .published) >>= save) ⟨files.main, assets'⟩ := by
  have hretain : ∃ assets', Solo Exec (inAssets (current.saveToPath codec .temporary .published)) files
    (.done (.ok ())) ⟨files.main, assets'⟩ := solo_retain hexec hold
  obtain ⟨assets', hretain⟩ := hretain
  refine ⟨assets', ?_⟩
  apply Exists.intro
  refine ((solo_load hexec hcontent hcurrent).bind _).trans ?_
  simp only [Program.done_bind, hold, if_neg hne]
  exact solo_assets (.ok ()) (hexec ⟨rfl, rfl⟩ trivial) ((hretain.bind _).trans (.refl ..))

/-- A request gets to the saving of its document. -/
theorem solo_putProfile (hsize : body.length ≤ MAX_PROFILE_BYTES)
    (hdocument : codec.fromBytes body = .ok document) (hvalid : document.validate = .ok ())
    (hcontent : files.main.content .published = some bytes)
    (hcurrent : codec.fromBytes bytes = .ok current) (hold : current.validate = .ok ())
    (hne : current ≠ document) : ∃ (assets' : Files SaveName)
      (save : Except ProfileSaveError Unit → EditorProgram (Except String Bool))
      (respond : Except String Bool → EditorProgram SaveReply), Solo Exec
      (putProfile codec path assets backup body) files
        ((inMain (document.saveToPath codec .temporary .published) >>= save) >>= respond)
          ⟨files.main, assets'⟩ := by
  obtain ⟨assets', save, hsave⟩ := @solo_saveProfileWithBackup codec path assets backup files bytes
    document current pid Exec hexec hcontent hcurrent hold hne
  rw [putProfile, if_neg (by omega), hdocument]
  simp only [hvalid]
  exact ⟨assets', save, _, hsave.bind _⟩

end Before

/-- A request opens the temporary file. -/
theorem solo_opened (hvalid : document.validate = .ok ()) : ∃ program, Solo (EditorOp.Exec pid)
    (inMain (document.saveToPath codec .temporary .published)) files program
      ⟨files.main.create pid .temporary, files.assets⟩ := by
  rw [ProfileDocument.saveToPath, hvalid]
  exact ⟨_, solo_main (.ok _) ⟨⟨rfl, rfl⟩, rfl⟩ (.refl ..)⟩

/-- A request gets to the publication of its document. -/
theorem solo_written (hvalid : document.validate = .ok ())
    (hcreate : Exec files (.main (.create .temporary)) (.ok (files.main.fileOf .temporary))
      ⟨files.main.create pid .temporary, files.assets⟩)
    (hwrite : ∀ {files file bytes}, Exec files (.main (.write file bytes)) (.ok ())
      ⟨files.main.store file bytes, files.assets⟩) : ∃ next, Solo Exec
    (inMain (document.saveToPath codec .temporary .published)) files
      (.perform (.main (.rename .temporary .published)) next)
        ⟨files.main.prepared pid .temporary (codec.text document), files.assets⟩ := by
  rw [ProfileDocument.saveToPath, hvalid]
  exact ⟨_, solo_main (.ok _) hcreate (solo_main (.ok ()) hwrite (.refl ..))⟩

end Requests

/-- The request saves the document in the place of the current one. -/
structure Saves (codec : ProfileCodec) (current document : ProfileDocument) (body : List UInt8) :
    Prop where
  size : body.length ≤ MAX_PROFILE_BYTES
  decodes : codec.fromBytes body = .ok document
  valid : document.validate = .ok ()
  differs : current ≠ document

/-- Two requests that save at the same time can leave the profile empty. -/
theorem editor_torn {codec : ProfileCodec} {path assets backup : String} {files : EditorFiles}
    {original body body' : List UInt8} {current document document' : ProfileDocument}
    (hopened : files.Opened original) (hcurrent : codec.fromBytes original = .ok current)
    (hold : current.validate = .ok ()) (hsaves : Saves codec current document body)
    (hsaves' : Saves codec current document' body') :
    ∃ c, (profileEditor codec path assets backup).Run files.idle c ∧
      c.shared.main.content .published = some [] := by
  have hstarts : ∀ op answer, (profileEditor codec path assets backup).starts op answer = none :=
    fun _ _ => rfl
  have hne : SaveName.published ≠ .temporary := nofun
  -- the first request prepares its document
  obtain ⟨assets₀, save₀, respond₀, hsolo₀⟩ := @solo_putProfile codec path assets backup files body
    original document current 0 (EditorOp.Exec 0) (fun h _ => h) hsaves.size hsaves.decodes hsaves.valid
      hopened.content hcurrent hold hsaves.differs
  have hwritten : ∃ next, Solo (EditorOp.Exec 0) _ _ _ _ := @solo_written codec
    ⟨files.main, assets₀⟩ document 0 (EditorOp.Exec 0) hsaves.valid ⟨⟨rfl, rfl⟩, rfl⟩ ⟨rfl, rfl⟩
  obtain ⟨next₀, hwritten⟩ := hwritten
  obtain ⟨c₁, hrun₁, hshared₁, hprocesses₁⟩ := Solo.arrive hstarts (c := files.idle) rfl ⟨body, rfl⟩
    (hsolo₀.trans ((hwritten.bind save₀).bind respond₀))
  -- the second request opens the temporary file
  have hcontent₁ : c₁.shared.main.content .published = some original := by
    rw [hshared₁]
    exact (Files.content_prepared hopened.bounded hopened.sole hne).trans hopened.content
  obtain ⟨assets₁, save₁, respond₁, hsolo₁⟩ := @solo_putProfile codec path assets backup c₁.shared body'
    original document' current 1 (EditorOp.Exec 1) (fun h _ => h) hsaves'.size hsaves'.decodes
      hsaves'.valid hcontent₁ hcurrent hold hsaves'.differs
  obtain ⟨program₁, htruncated⟩ := @solo_opened codec ⟨c₁.shared.main, assets₁⟩ document' 1 hsaves'.valid
  have hfree₁ : c₁.processes 1 = none := by
    rw [hprocesses₁]
    rfl
  obtain ⟨c₂, hrun₂, hshared₂, hprocesses₂⟩ := Solo.arrive hstarts hfree₁ ⟨body', rfl⟩
    (hsolo₁.trans ((htruncated.bind save₁).bind respond₁))
  -- the first request publishes what is left
  have hrunning : c₂.processes 0 = some ⟨body, some (.perform (.main (.rename .temporary .published))
      fun renamed => (next₀ renamed >>= save₀) >>= respond₀)⟩ := by
    rw [hprocesses₂, hprocesses₁]
    rfl
  obtain ⟨hthere, hempty⟩ : c₂.shared.main.entry .temporary ≠ none ∧
      (c₂.shared.main.rename .temporary .published).content .published = some [] := by
    rw [hshared₂, hshared₁]
    exact Files.content_torn hopened.bounded hopened.sole hne
  have hrename : EditorOp.Exec 0 c₂.shared (.main (.rename .temporary .published)) (.ok ())
      ⟨(c₂.shared.main.rename .temporary .published).leave 0 .temporary, c₂.shared.assets⟩ :=
    ⟨⟨hthere, rfl⟩, rfl⟩
  exact ⟨_, (hrun₁.trans hrun₂).tail (.perform hrunning hrename rfl), hempty⟩

/-- The text of a document is not empty. -/
theorem not_legitimate_nil {codec : ProfileCodec} {original : List UInt8} {history : List EditorEvent}
    (hne : original ≠ []) : ¬ Legitimate codec original history [] := by
  rintro (heq | ⟨pid, body, -, document, -, -, heq⟩)
  · exact hne heq.symm
  · simp [ProfileCodec.text] at heq

/-- The profile in a directory of its own. -/
def alone (bytes : List UInt8) : Files SaveName where
  entry name := if name = .published then some 0 else none
  data _ := bytes
  next := 1
  holder _ := none
  stagers _ := ∅

def openedEditor (bytes : List UInt8) : EditorFiles := ⟨alone bytes, alone bytes⟩

theorem openedEditor_opened (bytes : List UInt8) : (openedEditor bytes).Opened bytes where
  bounded name file h := by
    cases name with
    | published =>
      obtain rfl := Option.some.inj h
      exact Nat.zero_lt_one
    | temporary => cases h
  sole := Files.sole_of_none rfl
  content := rfl

def bareCodec : ProfileCodec :=
  .bare [bareDocument "PUBG Mobile", bareDocument "Scrims", bareDocument "Ranked"]

theorem bare_saves (name : String) (hname : name = "Scrims" ∨ name = "Ranked") :
    Saves bareCodec (bareDocument "PUBG Mobile") (bareDocument name) (bareBytes name) := by
  rcases hname with rfl | rfl
  · exact ⟨by decide +kernel, by decide +kernel, by decide +kernel, by decide +kernel⟩
  · exact ⟨by decide +kernel, by decide +kernel, by decide +kernel, by decide +kernel⟩

/-- The profile before the saves. -/
def bareOriginal : List UInt8 := bareCodec.text (bareDocument "PUBG Mobile")

theorem bareOriginal_loads : bareCodec.fromBytes bareOriginal = .ok (bareDocument "PUBG Mobile") ∧
    (bareDocument "PUBG Mobile").validate = .ok () :=
  ⟨by decide +kernel, by decide +kernel⟩

/-- Two requests at the same time leave the profile empty: neither what it was nor what a request
has submitted. -/
theorem saves_tear_the_profile : ∃ (codec : ProfileCodec) (files : EditorFiles) (original : List UInt8)
    (c : EditorConfig), files.Opened original ∧
      (profileEditor codec "/games/pubg.json" "/games/.wroid-assets"
        "/games/.wroid-assets/pubg.json.previous.json").Run files.idle c ∧
      c.shared.main.content .published = some [] ∧ ¬ Legitimate codec original c.history [] := by
  obtain ⟨hloads, hvalid⟩ := bareOriginal_loads
  obtain ⟨c, hrun, hempty⟩ := editor_torn (openedEditor_opened bareOriginal) hloads hvalid
    (bare_saves "Scrims" (.inl rfl)) (bare_saves "Ranked" (.inr rfl))
  exact ⟨bareCodec, _, _, c, openedEditor_opened bareOriginal, hrun, hempty,
    not_legitimate_nil (by decide +kernel)⟩

/-- A request alone publishes its document. -/
theorem one_save_is_complete : ∃ c : EditorConfig,
    ((profileEditor bareCodec "/games/pubg.json" "/games/.wroid-assets"
      "/games/.wroid-assets/pubg.json.previous.json").restrict Alone).Run
        (openedEditor bareOriginal).idle c ∧
    c.shared.main.content .published = some (bareCodec.text (bareDocument "Scrims")) ∧
    Legitimate bareCodec bareOriginal c.history (bareCodec.text (bareDocument "Scrims")) := by
  have hopened := openedEditor_opened bareOriginal
  have hne : SaveName.published ≠ .temporary := nofun
  obtain ⟨hloads, hvalid⟩ := bareOriginal_loads
  have hsaves := bare_saves "Scrims" (.inl rfl)
  obtain ⟨assets, save, respond, hsolo⟩ := @solo_putProfile bareCodec "/games/pubg.json"
    "/games/.wroid-assets" "/games/.wroid-assets/pubg.json.previous.json" (openedEditor bareOriginal)
    (bareBytes "Scrims") bareOriginal (bareDocument "Scrims") (bareDocument "PUBG Mobile") 0
    (fun files op answer files' => EditorOp.Exec 0 files op answer files' ∧ Alone 0 files op)
    (fun h h' => ⟨h, h'⟩) hsaves.size hsaves.decodes hsaves.valid hopened.content hloads hvalid
    hsaves.differs
  obtain ⟨next, hwritten⟩ := @solo_written bareCodec ⟨alone bareOriginal, assets⟩
    (bareDocument "Scrims") 0
    (fun files op answer files' => EditorOp.Exec 0 files op answer files' ∧ Alone 0 files op)
    hsaves.valid ⟨⟨⟨rfl, rfl⟩, rfl⟩, rfl⟩ ⟨⟨rfl, rfl⟩, trivial⟩
  obtain ⟨c, hrun, hshared, hprocesses⟩ := Solo.arrive
    (S := (profileEditor bareCodec "/games/pubg.json" "/games/.wroid-assets"
      "/games/.wroid-assets/pubg.json.previous.json").restrict Alone) (fun _ _ => rfl)
    (c := (openedEditor bareOriginal).idle) rfl ⟨bareBytes "Scrims", rfl⟩
    (hsolo.trans ((hwritten.bind save).bind respond))
  have hrunning : c.processes 0 = some ⟨bareBytes "Scrims", some (.perform
      (.main (.rename .temporary .published)) fun renamed => (next renamed >>= save) >>= respond)⟩ := by
    rw [hprocesses]
    rfl
  have hthere : c.shared.main.entry .temporary ≠ none := by
    rw [hshared]
    exact Files.entry_prepared _ _ _ _
  have hcontent : (c.shared.main.rename .temporary .published).content .published =
      some (bareCodec.text (bareDocument "Scrims")) := by
    rw [hshared]
    exact Files.content_published hopened.bounded hopened.sole hne
  have hrename : EditorOp.Exec 0 c.shared (.main (.rename .temporary .published)) (.ok ())
      ⟨(c.shared.main.rename .temporary .published).leave 0 .temporary, c.shared.assets⟩ :=
    ⟨⟨hthere, rfl⟩, rfl⟩
  have hpublished := hrun.tail (.perform hrunning ⟨hrename, trivial⟩ rfl)
  obtain ⟨⟨bytes, hbytes, hlegitimate⟩, -⟩ := saves_one_at_a_time hopened hpublished
  obtain rfl := Option.some.inj (hbytes.symm.trans hcontent)
  exact ⟨_, hpublished, hcontent, hlegitimate⟩

end Wroid.ProfileSave
