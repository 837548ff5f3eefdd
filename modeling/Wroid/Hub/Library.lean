import Wroid.Core.Save

/-!
# The profile library

How profiles get into the library of the hub: `POST /api/import`, and the reconciliation with the
installed variants of a game, which derives the profile of a variant from the one of the game.
Several hubs may share a library, and each serves its requests on threads of its own.

An import looks whether there is a profile and then saves its own one.  A reconciliation gives the
file it has prepared the name of the profile, if that is free.

The reading of the library and of the list of the installed packages are left out: a
reconciliation begins with what it has read.

## Main definitions

* `profileId`, `GAME_FAMILIES` — the names of the profiles.
* `LibraryName`, `LibraryOp` — the files of a library, and what is done with them.
* `handleProfileImport`, `reconcileInstalledGameVariants` — the texts of the two requests.
* `library` — the requests on one library.
-/

namespace Wroid

open Lib

/-! ### Games -/

structure GameVariant where
  package : String
  name : String
  profileId : String

structure GameFamily where
  name : String
  canonicalPackage : String
  variants : List GameVariant

def PUBG_VARIANTS : List GameVariant :=
  [⟨"com.tencent.ig", "PUBG Mobile", "pubg-mobile"⟩,
    ⟨"com.pubg.krmobile", "PUBG Mobile Korea", "pubg-mobile-korea"⟩,
    ⟨"com.vng.pubgmobile", "PUBG Mobile Vietnam", "pubg-mobile-vietnam"⟩,
    ⟨"com.rekoo.pubgm", "PUBG Mobile Taiwan", "pubg-mobile-taiwan"⟩,
    ⟨"com.pubg.imobile", "Battlegrounds Mobile India", "bgmi"⟩]

def FREE_FIRE_VARIANTS : List GameVariant :=
  [⟨"com.dts.freefireth", "Free Fire", "free-fire"⟩,
    ⟨"com.dts.freefiremax", "Free Fire MAX", "free-fire-max"⟩]

def BRAWL_STARS_VARIANTS : List GameVariant :=
  [⟨"com.supercell.brawlstars", "Brawl Stars", "brawl-stars"⟩]

def STANDOFF_VARIANTS : List GameVariant := [⟨"com.axlebolt.standoff2", "Standoff 2", "standoff-2"⟩]

def GAME_FAMILIES : List GameFamily :=
  [⟨"PUBG Mobile", "com.tencent.ig", PUBG_VARIANTS⟩,
    ⟨"Free Fire", "com.dts.freefireth", FREE_FIRE_VARIANTS⟩,
    ⟨"Brawl Stars", "com.supercell.brawlstars", BRAWL_STARS_VARIANTS⟩,
    ⟨"Standoff 2", "com.axlebolt.standoff2", STANDOFF_VARIANTS⟩]

def profileIdChars : (previousDash : Bool) → List Char → List Char
  | _, [] => []
  | previousDash, character :: rest =>
    if character.isAlphanum ∨ character = '.' ∨ character = '_' then
      character :: profileIdChars false rest
    else if previousDash then profileIdChars true rest
    else '-' :: profileIdChars true rest

/-- The name of the profile of a package. -/
def profileId (package : String) : String :=
  let result := trimChars (· == '-') (profileIdChars false (asciiLower (trim rustBlank package)).toList)
  if result.isEmpty then "custom-game" else .ofList result

/-! ### Files -/

/-- The files of a library.  A temporary file is named after the process of its hub, and what a
variant is prepared in also after a token. -/
inductive LibraryName
  | profile (id : String)
  | importTemporary (hub : ℕ) (id : String)
  | variant (token id : String)
  | variantTemporary (hub : ℕ) (token id : String)
  deriving DecidableEq

/-- The files, and the tokens that have been used. -/
structure LibraryFiles where
  files : Files LibraryName
  tokens : Set String

inductive LibraryOp
  | file (op : FileOp LibraryName)
  /-- A token of 24 random bytes; none comes twice. -/
  | localToken

@[reducible] def LibraryOp.Answer : LibraryOp → Type
  | .file op => op.Answer
  | .localToken => Except String String

def LibraryOp.Exec (pid : ℕ) (s : LibraryFiles) :
    (op : LibraryOp) → op.Answer → LibraryFiles → Prop
  | .file op, answer, s' => FileOp.Exec pid s.files op answer s'.files ∧ s'.tokens = s.tokens
  | .localToken, .ok token, s' => token ∉ s.tokens ∧ s' = { s with tokens := insert token s.tokens }
  | .localToken, .error _, s' => s' = s

abbrev LibraryProgram := Program LibraryOp LibraryOp.Answer

def LibraryOp.call (op : LibraryOp) : LibraryProgram op.Answer := Program.call op

def inLibrary {α : Type} (program : FileProgram LibraryName α) : LibraryProgram α :=
  program.embed .file fun _ answer => answer

open LibraryOp (call)

/-! ### Imports -/

inductive ImportReply
  | refused (status : ℕ) (error : String)
  | invalid (errors : List String)
  | imported (id : String)
  deriving DecidableEq

section Texts

variable (codec : ProfileCodec) (directory : String) (hub : ℕ)

def handleProfileImport (body : List UInt8) : LibraryProgram ImportReply := do
  match codec.fromBytes body with
  | .error error => return .refused 422 s!"invalid JSON: {error}"
  | .ok document =>
    match document.validate with
    | .error errors => return .invalid errors
    | .ok _ =>
      let id := profileId document.profile.packageName
      if ← call (.file (.present (.profile id))) then
        return .refused 409 s!"profile {id} already exists in the library"
      match ← inLibrary (document.saveToPath codec (.importTemporary hub id) (.profile id)) with
      | .ok _ => return .imported id
      | .error error => return .refused 500 error.text

/-! ### Variants -/

/-- The prepared file gets the name of the profile, if that is free. -/
def publishStaged (token id : String) : LibraryProgram (Except String Bool) := do
  match ← call (.file (.setPermissions (.variant token id))) with
  | .error error =>
    return .error s!"failed to secure {directory}/.{id}.json.{token}.variant.tmp: {error.text}"
  | .ok _ =>
    match ← call (.file (.link (.variant token id) (.profile id))) with
    | .ok _ => return .ok true
    | .error .alreadyExists => return .ok false
    | .error error => return .error s!"failed to publish {directory}/{id}.json: {error.text}"

def publishProfileNoReplace (document : ProfileDocument) (id : String) :
    LibraryProgram (Except String Bool) := do
  match ← call .localToken with
  | .error error => return .error error
  | .ok token =>
    match ← inLibrary (document.saveToPath codec (.variantTemporary hub token id) (.variant token id)) with
    | .error error => return .error s!"failed to stage {directory}/{id}.json: {error.chain}"
    | .ok _ =>
      let published ← publishStaged directory token id
      let _ ← call (.file (.remove (.variant token id)))
      return published

structure VariantSyncReport where
  created : List String
  warnings : List String

/-- The report so far, and the packages that have a profile. -/
structure VariantSync where
  report : VariantSyncReport
  representedPackages : List String

def boundedVariantWarning (message : String) : String := .ofList (message.toList.take 512)

def VariantSync.warn (sync : VariantSync) (message : String) : VariantSync :=
  { sync with
    report.warnings := sync.report.warnings ++ [boundedVariantWarning message] }

def reconcileVariant (family : GameFamily) (installedPackages : List String)
    (canonical : ProfileDocument) (sync : VariantSync) (variant : GameVariant) :
    LibraryProgram VariantSync := do
  if variant.package = family.canonicalPackage ∨ variant.package ∈ sync.representedPackages ∨
      variant.package ∉ installedPackages then
    return sync
  let derived : ProfileDocument := { canonical with
    profile.name := variant.name
    profile.packageName := variant.package }
  match ← publishProfileNoReplace codec directory hub derived variant.profileId with
  | .ok true =>
    return { sync with
      report.created := sync.report.created ++ [variant.profileId]
      representedPackages := sync.representedPackages ++ [variant.package] }
  | .ok false =>
    return sync.warn s!"{variant.name}: kept existing profile id {variant.profileId}; choose another id or fix that file to adopt {variant.package}"
  | .error error => return sync.warn s!"{variant.name}: could not create controls profile: {error}"

def reconcileFamily (profiles : List ProfileDocument) (installedPackages : List String)
    (sync : VariantSync) (family : GameFamily) : LibraryProgram VariantSync := do
  match profiles.find? fun document => document.profile.packageName = family.canonicalPackage with
  | none =>
    if ∃ variant ∈ family.variants, variant.package ≠ family.canonicalPackage ∧
        variant.package ∈ installedPackages then
      return sync.warn s!"{family.name}: canonical controls profile {family.canonicalPackage} is unavailable"
    return sync
  | some canonical =>
    family.variants.foldlM (reconcileVariant codec directory hub family installedPackages canonical) sync

def reconcileInstalledGameVariants (profiles : List ProfileDocument)
    (installedPackages : List String) : LibraryProgram VariantSyncReport := do
  let sync ← GAME_FAMILIES.foldlM (reconcileFamily codec directory hub profiles installedPackages)
    ⟨⟨[], []⟩, profiles.map fun document => document.profile.packageName⟩
  return sync.report

end Texts

/-! ### The system -/

inductive LibraryTask
  | imports (hub : ℕ) (body : List UInt8)
  | reconciles (hub : ℕ) (profiles : List ProfileDocument) (installedPackages : List String)

inductive LibraryReply
  | imported (reply : ImportReply)
  | reconciled (report : VariantSyncReport)

/-- The profiles that the reply says were created. -/
def LibraryReply.created : LibraryReply → List String
  | .imported (.imported id) => [id]
  | .imported (.refused ..) | .imported (.invalid _) => []
  | .reconciled report => report.created

/-- What a request does. -/
def LibraryTask.text (codec : ProfileCodec) (directory : String) :
    LibraryTask → LibraryProgram LibraryReply
  | .imports hub body => do return .imported (← handleProfileImport codec hub body)
  | .reconciles hub profiles installedPackages => do
    return .reconciled
      (← reconcileInstalledGameVariants codec directory hub profiles installedPackages)

abbrev LibraryConfig := Config LibraryTask LibraryFiles LibraryOp LibraryOp.Answer LibraryReply

abbrev LibraryEvent := Event LibraryTask LibraryFiles LibraryOp.Answer

/-- The names of temporary files that are written. -/
def LibraryName.Temporary : LibraryName → Prop
  | .importTemporary .. | .variantTemporary .. => True
  | .profile _ | .variant .. => False

/-- A library at the start.  Temporary files may be there, from requests that failed. -/
structure LibraryFiles.Opened (s : LibraryFiles) : Prop where
  bounded : ∀ name file, s.files.entry name = some file → file < s.files.next
  sole : ∀ name : LibraryName, name.Temporary → s.files.Sole name

/-- No request has arrived yet. -/
def LibraryFiles.idle (s : LibraryFiles) : LibraryConfig := ⟨s, fun _ => none, []⟩

end Wroid
