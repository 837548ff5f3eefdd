import Wroid.Hub.Library
import Wroid.Core.ProfileText

/-!
# The starter profiles

The profiles that come with the hub.  Each start of the hub puts those that are missing into the
library, and replaces a file that is still what an earlier release has installed.  Of the earlier
releases only the difference to the current one is kept: some bindings were added, and held buttons
were taps.

## Main definitions

* `STARTER_PROFILES` — the starters of this release, as their embedded texts read.
* `starterPredecessors` — what the earlier releases installed.
* `bootstrapLibrary` — the text of `bootstrap_library`.
* `afterBootstrap` — what a starter's file holds afterwards.

## Main results

* `starters_valid`, `current_not_predecessor` — the starters are valid, and none is an earlier
  release of itself.
-/

namespace Wroid

open Lib

/-! ### The profiles -/

/-- A starter; the profile is what its embedded text reads as. -/
structure StarterProfile where
  id : String
  profile : ProfileDocument

def tapBinding (name : String) (input : InputV2) (x y : ℚ) : BindingV2 :=
  ⟨name, none, none, input, .tap ⟨x, y⟩⟩

/-- The left mouse button, held. -/
def fireBinding (x y : ℚ) : BindingV2 :=
  ⟨"fire", none, none, .mouseButton "left", .hold ⟨x, y⟩⟩

def stickBinding (name : String) (input : InputV2) (x y radius deadZone : ℚ) : BindingV2 :=
  ⟨name, none, none, input, .virtualJoystick ⟨x, y⟩ radius deadZone .hold (some 50)⟩

def cameraBinding (x y w h sensitivity recenterThreshold adsMultiplier : ℚ) : BindingV2 :=
  ⟨"camera", none, none, .mouseMove, .mouseAim ⟨x, y, w, h⟩ sensitivity (some "tab")
    recenterThreshold 0 (some adsMultiplier) (some 50)⟩

def wasd : InputV2 := .keyCluster "w" "a" "s" "d"

/-- `pubg-v2.json` -/
def pubgStarter : ProfileDocument where
  profile :=
    { schemaVersion := 2
      name := "PUBG Mobile — default landscape HUD"
      packageName := "com.tencent.ig"
      layers := []
      bindings := [
        stickBinding "movement" wasd 0.16 0.77 0.105 0.02,
        cameraBinding 0.34 0.08 0.59 0.70 1.10 0.68 0.55,
        fireBinding 0.91 0.48,
        tapBinding "aim_down_sights" (.mouseButton "right") 0.85 0.33,
        tapBinding "loot" (.key "f") 0.62 0.55,
        tapBinding "reload" (.key "r") 0.88 0.64,
        tapBinding "map" (.key "m") 0.94 0.10,
        tapBinding "crouch" (.key "c") 0.79 0.76,
        tapBinding "prone" (.key "z") 0.72 0.79,
        tapBinding "lean_left" (.key "q") 0.73 0.39,
        tapBinding "lean_right" (.key "e") 0.80 0.39,
        tapBinding "jump" (.key "space") 0.87 0.69] }
  orientation := .landscape

/-- `freefire-v2.json` -/
def freeFireStarter : ProfileDocument where
  profile :=
    { schemaVersion := 2
      name := "Free Fire — default landscape HUD"
      packageName := "com.dts.freefireth"
      layers := []
      bindings := [
        stickBinding "movement" wasd 0.16 0.76 0.105 0.02,
        cameraBinding 0.35 0.08 0.58 0.70 1.12 0.68 0.58,
        fireBinding 0.91 0.46,
        tapBinding "scope" (.mouseButton "right") 0.84 0.35,
        tapBinding "reload" (.key "r") 0.88 0.64,
        tapBinding "interact" (.key "f") 0.62 0.55,
        tapBinding "jump" (.key "space") 0.87 0.69,
        tapBinding "crouch" (.key "c") 0.79 0.76,
        tapBinding "prone" (.key "z") 0.72 0.79] }
  orientation := .landscape

/-- `brawlstars-v2.json` -/
def brawlStarsStarter : ProfileDocument where
  profile :=
    { schemaVersion := 2
      name := "Brawl Stars — default landscape HUD"
      packageName := "com.supercell.brawlstars"
      layers := []
      bindings := [
        stickBinding "movement" wasd 0.16 0.76 0.095 0.018,
        stickBinding "attack" (.keyCluster "up" "left" "down" "right") 0.83 0.76 0.095 0.018,
        tapBinding "super_auto_aim" (.key "space") 0.72 0.82,
        tapBinding "gadget" (.key "e") 0.90 0.55] }
  orientation := .landscape

/-- `standoff2-v2.json` -/
def standoffStarter : ProfileDocument where
  profile :=
    { schemaVersion := 2
      name := "Standoff 2 — default landscape HUD"
      packageName := "com.axlebolt.standoff2"
      layers := []
      bindings := [
        stickBinding "movement" wasd 0.16 0.76 0.10 0.02,
        cameraBinding 0.38 0.08 0.56 0.70 1.15 0.70 0.62,
        fireBinding 0.91 0.47,
        tapBinding "aim_down_sights" (.mouseButton "right") 0.84 0.39,
        tapBinding "reload" (.key "r") 0.88 0.67,
        tapBinding "jump" (.key "space") 0.81 0.58,
        tapBinding "crouch" (.key "c") 0.76 0.76,
        tapBinding "primary_weapon" (.key "1") 0.89 0.18,
        tapBinding "secondary_weapon" (.key "2") 0.79 0.18,
        tapBinding "action" (.key "f") 0.60 0.57] }
  orientation := .landscape

def STARTER_PROFILES : List StarterProfile :=
  [⟨"pubg-mobile", pubgStarter⟩, ⟨"free-fire", freeFireStarter⟩,
    ⟨"brawl-stars", brawlStarsStarter⟩, ⟨"standoff-2", standoffStarter⟩]

/-! ### Earlier releases -/

/-- A held button as a tap. -/
def ActionV2.asTap : ActionV2 → ActionV2
  | .hold point => .tap point
  | action => action

def ActionV2.isHold : ActionV2 → Bool
  | .hold _ => true
  | .tap _ | .virtualJoystick .. | .mouseAim .. | .macroSteps _ => false

/-- The profile with taps for its held buttons, if it has any. -/
def legacyTapStarter (current : ProfileDocument) : Option ProfileDocument :=
  if current.profile.bindings.any fun binding => binding.action.isHold then
    some { current with
      profile.bindings := current.profile.bindings.map fun binding =>
        { binding with action := binding.action.asTap } }
  else none

/-- The bindings that a release added to the starter of a game. -/
def addedBindings (packageName : String) : List String :=
  if packageName = "com.tencent.ig" then ["reload"]
  else if packageName = "com.axlebolt.standoff2" then ["aim_down_sights"]
  else []

def starterPredecessors (current : ProfileDocument) : List ProfileDocument :=
  let added := addedBindings current.profile.packageName
  let previous : ProfileDocument := { current with
    profile.bindings := current.profile.bindings.filter fun binding => binding.name ∉ added }
  (if added ≠ [] ∧ previous ≠ current then (legacyTapStarter previous).toList ++ [previous] else []) ++
    (legacyTapStarter current).toList

/-! ### Starting the hub -/

section Texts

variable (codec : ProfileCodec) (directory : String) (hub : ℕ)

/-- The starter into its file, with the context of the error. -/
def saveStarter (action : String) (starter : StarterProfile) :
    FileProgram LibraryName (Except String Unit) := do
  match ← starter.profile.saveToPath codec (.importTemporary hub starter.id)
      (.profile starter.id) with
  | .error _ => return .error s!"failed to {action} starter profile {directory}/{starter.id}.json"
  | .ok _ => return .ok ()

def upgradeUntouchedStarter (starter : StarterProfile) :
    FileProgram LibraryName (Except String Unit) := do
  match ← loadFromPath codec (.profile starter.id) with
  | .error _ => return .ok ()
  | .ok installed =>
    if installed ∈ starterPredecessors starter.profile then
      saveStarter codec directory hub "upgrade" starter
    else return .ok ()

/-- One starter. -/
def bootstrapStarter (starter : StarterProfile) : FileProgram LibraryName (Except String Unit) := do
  if ← FileOp.call (.present (.profile starter.id)) then
    upgradeUntouchedStarter codec directory hub starter
  else saveStarter codec directory hub "install" starter

/-- The loop over the starters, up to the first error. -/
def bootstrapStarters : List StarterProfile → FileProgram LibraryName (Except String Unit)
  | [] => return .ok ()
  | starter :: starters => do
    match ← bootstrapStarter codec directory hub starter with
    | .error error => return .error error
    | .ok _ => bootstrapStarters starters

def bootstrapLibrary : FileProgram LibraryName (Except String Unit) := do
  match ← FileOp.call .createDirectory with
  | .error _ => return .error s!"failed to create profile library {directory}"
  | .ok _ => bootstrapStarters codec directory hub STARTER_PROFILES

end Texts

/-! ### What a start leaves behind -/

/-- What a starter's file holds after a start, by what it held before. -/
def afterBootstrap (codec : ProfileCodec) (current : ProfileDocument) :
    Option (List UInt8) → List UInt8
  | none => codec.text current
  | some bytes =>
    match codec.fromBytes bytes with
    | .error _ => bytes
    | .ok installed =>
      if installed ∈ starterPredecessors current then codec.text current else bytes

theorem starters_valid : ∀ starter ∈ STARTER_PROFILES, starter.profile.validate = .ok () := by
  decide +kernel

/-- No starter is an earlier release of itself. -/
theorem current_not_predecessor :
    ∀ starter ∈ STARTER_PROFILES, starter.profile ∉ starterPredecessors starter.profile := by
  decide +kernel

theorem starter_ids : STARTER_PROFILES.Pairwise fun a b => a.id ≠ b.id := by
  decide +kernel

end Wroid
