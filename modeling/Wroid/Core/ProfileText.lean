import Wroid.Core.Save
import Wroid.Lib.JsonPretty

/-!
# The text of a profile

A profile as its file has it: every value on a line of its own, indented by two blanks for each
level.  Numbers are printed as decimals, which is what a float of a profile prints as.

## Main definitions

* `prettyBlock` — an object or an array on several lines.
* `jsonDecimal` — a number as a decimal.
* `ProfileDocument.prettyText` — the text of a profile.
* `ProfileCodec.table` — the codec of given profiles.

## Main results

* `table_reads` — the codec reads the texts of its profiles, if they differ.
-/

namespace Wroid

open Lib

/-! ### Blocks and numbers -/

/-- The parts on lines of their own between two brackets; no parts, no lines. -/
def prettyBlock (indent : ℕ) (left right : Char) (parts : List (List Char)) : List Char :=
  if parts.isEmpty then [left, right]
  else
    left :: commaSeparated (parts.map fun part => '\n' :: List.replicate (indent + 2) ' ' ++ part) ++
      '\n' :: List.replicate indent ' ' ++ [right]

def prettyFields (indent : ℕ) (fields : List (String × List Char)) : List Char :=
  prettyBlock indent '\x7b' '\x7d'
    (fields.map fun field => jsonString field.1 ++ ':' :: ' ' :: field.2)

def prettyItems (indent : ℕ) (items : List (List Char)) : List Char :=
  prettyBlock indent '[' ']' items

/-- How many decimals the number needs, one at least. -/
def decimalPlaces (q : ℚ) : ℕ :=
  max 1 (((List.range 18).find? fun places => (q * 10 ^ places).den = 1).getD 17)

def jsonDecimal (q : ℚ) : List Char :=
  let places := decimalPlaces q
  let digits := (|q| * 10 ^ places).num.toNat
  (if q < 0 then ['-'] else []) ++ jsonNat (digits / 10 ^ places) ++
    '.' :: (jsonNat (digits % 10 ^ places)).leftpad places '0'

def jsonOption {α : Type} (print : α → List Char) : Option α → List Char
  | none => jsonNull
  | some value => print value

/-! ### The parts of a profile -/

def NormalizedPoint.prettyText (indent : ℕ) (point : NormalizedPoint) : List Char :=
  prettyFields indent [("x", jsonDecimal point.x), ("y", jsonDecimal point.y)]

def NormalizedRect.prettyText (indent : ℕ) (rect : NormalizedRect) : List Char :=
  prettyFields indent [("x", jsonDecimal rect.x), ("y", jsonDecimal rect.y),
    ("w", jsonDecimal rect.w), ("h", jsonDecimal rect.h)]

def JoystickMode.name : JoystickMode → String
  | .hold => "hold"
  | .toggle => "toggle"

mutual

def ActionV2.prettyText (indent : ℕ) (action : ActionV2) : List Char :=
  match action with
  | .tap point =>
    prettyFields indent [("kind", jsonString "tap"), ("point", point.prettyText (indent + 2))]
  | .hold point =>
    prettyFields indent [("kind", jsonString "hold"), ("point", point.prettyText (indent + 2))]
  | .virtualJoystick center radius deadZone mode reaffirmMs =>
    prettyFields indent [("kind", jsonString "virtual_joystick"),
      ("center", center.prettyText (indent + 2)), ("radius", jsonDecimal radius),
      ("dead_zone", jsonDecimal deadZone), ("mode", jsonString mode.name),
      ("reaffirm_ms", jsonOption jsonNat reaffirmMs)]
  | .mouseAim region sensitivity toggleKey recenterThreshold recenterGapMs adsMultiplier
      reaffirmMs =>
    prettyFields indent [("kind", jsonString "mouse_aim"),
      ("region", region.prettyText (indent + 2)), ("sensitivity", jsonDecimal sensitivity),
      ("toggle_key", jsonOption jsonString toggleKey),
      ("recenter_threshold", jsonDecimal recenterThreshold),
      ("recenter_gap_ms", jsonNat recenterGapMs),
      ("ads_multiplier", jsonOption jsonDecimal adsMultiplier),
      ("reaffirm_ms", jsonOption jsonNat reaffirmMs)]
  | .macroSteps steps =>
    prettyFields indent [("kind", jsonString "macro"),
      ("steps", prettyItems (indent + 2) (ActionV2.prettySteps (indent + 4) steps))]

def ActionV2.prettySteps (indent : ℕ) (steps : List ActionV2) : List (List Char) :=
  match steps with
  | [] => []
  | step :: rest => step.prettyText indent :: ActionV2.prettySteps indent rest

end

def InputV2.prettyText (indent : ℕ) : InputV2 → List Char
  | .key name => prettyFields indent [("kind", jsonString "key"), ("key", jsonString name)]
  | .keyCluster up left down right =>
    prettyFields indent [("kind", jsonString "key_cluster"), ("up", jsonString up),
      ("left", jsonString left), ("down", jsonString down), ("right", jsonString right)]
  | .mouseButton button =>
    prettyFields indent [("kind", jsonString "mouse_button"), ("button", jsonString button)]
  | .mouseMove => prettyFields indent [("kind", jsonString "mouse_move")]

/-- A field that is left out when there is nothing in it. -/
def presentField (name : String) (value : Option String) : List (String × List Char) :=
  value.toList.map fun text => (name, jsonString text)

def BindingV2.prettyText (indent : ℕ) (binding : BindingV2) : List Char :=
  prettyFields indent ([("name", jsonString binding.name)] ++
    presentField "layer" binding.layer ++ presentField "modifier" binding.modifier ++
    [("input", binding.input.prettyText (indent + 2)),
      ("action", binding.action.prettyText (indent + 2))])

def LayerActivation.prettyText (indent : ℕ) : LayerActivation → List Char
  | .hold name => prettyFields indent [("kind", jsonString "hold"), ("key", jsonString name)]
  | .toggle name => prettyFields indent [("kind", jsonString "toggle"), ("key", jsonString name)]

def LayerV2.prettyText (indent : ℕ) (layer : LayerV2) : List Char :=
  prettyFields indent [("name", jsonString layer.name),
    ("activation", layer.activation.prettyText (indent + 2))]

/-- The text of a profile. -/
def ProfileDocument.prettyText (document : ProfileDocument) : List Char :=
  prettyFields 0 [("schema_version", jsonNat document.profile.schemaVersion),
    ("name", jsonString document.profile.name),
    ("package_name", jsonString document.profile.packageName),
    ("orientation", jsonString document.orientation.name),
    ("layers", prettyItems 2 (document.profile.layers.map (LayerV2.prettyText 4))),
    ("bindings", prettyItems 2 (document.profile.bindings.map (BindingV2.prettyText 4)))]

/-! ### A codec for given profiles -/

/-- The codec of these profiles: it prints every profile, and reads the files of these. -/
def ProfileCodec.table (documents : List ProfileDocument) : ProfileCodec where
  toPretty document := utf8Bytes document.prettyText
  fromBytes bytes :=
    match documents.find? fun document => utf8Bytes document.prettyText ++ [10] = bytes with
    | some document => .ok document
    | none => .error "expected value at line 1 column 1"

/-- The codec reads the texts of its profiles, if they differ. -/
theorem table_reads {documents : List ProfileDocument}
    (hdiffer : documents.Pairwise fun a b => utf8Bytes a.prettyText ≠ utf8Bytes b.prettyText)
    {document : ProfileDocument} (hmem : document ∈ documents) :
    (ProfileCodec.table documents).fromBytes ((ProfileCodec.table documents).text document) =
      .ok document := by
  have hfind : documents.find? (fun other => utf8Bytes other.prettyText ++ [10] =
      utf8Bytes document.prettyText ++ [10]) = some document := by
    induction documents with
    | nil => cases hmem
    | cons first rest ih =>
      rw [List.pairwise_cons] at hdiffer
      rcases List.mem_cons.mp hmem with rfl | hrest
      · rw [List.find?_cons_of_pos (by simp)]
      · have hne : utf8Bytes first.prettyText ≠ utf8Bytes document.prettyText :=
          hdiffer.1 document hrest
        rw [List.find?_cons_of_neg (by simpa using hne)]
        exact ih hdiffer.2 hrest
  simp only [ProfileCodec.table, ProfileCodec.text, hfind]

end Wroid
