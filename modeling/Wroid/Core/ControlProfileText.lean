import Wroid.Core.ControlProfile
import Wroid.Lib.Files
import Wroid.Lib.JsonValues

/-!
# The text of a control profile

How a profile in pixels is written to its file and read from it.  The inputs and the actions are
unions whose variants are named by the field `kind`; an action may hold actions.  Derived decoders
look at such a union as a whole before they look at its variant, so what is inside one has been
buffered.

## Main definitions

* `ControlProfile.toJson`, `ControlProfile.fromJson` — the profile as a JSON value.
* `ControlProfile.text`, `ControlProfile.load` — the bytes of the file, and what is read from them.
* `ControlProfile.Fits` — all numbers fit their types.

## Main results

* `BindingAction.fromJson_toJson` — an action is decoded as it was encoded.
* `ControlProfile.load_text` — **a profile is read from its file as it was written**.
-/

namespace Wroid

open Lib

/-! ### Encoding -/

def jsonNumber (n : ℕ) : Json := .number (jsonNat n)

def Point.toJson (point : Point) : Json :=
  .object [("x", jsonNumber point.x), ("y", jsonNumber point.y)]

def Resolution.toJson (resolution : Resolution) : Json :=
  .object [("width", jsonNumber resolution.width), ("height", jsonNumber resolution.height)]

def BindingInput.toJson : BindingInput → Json
  | .key bound => .object [("kind", .string "key"), ("key", .string bound)]
  | .keyCluster up left down right => .object
      [("kind", .string "key_cluster"), ("up", .string up), ("left", .string left),
        ("down", .string down), ("right", .string right)]
  | .mouseButton button => .object [("kind", .string "mouse_button"), ("button", .string button)]

mutual

def BindingAction.toJson : BindingAction → Json
  | .tap point => .object [("kind", .string "tap"), ("point", point.toJson)]
  | .swipe start target durationMs => .object
      [("kind", .string "swipe"), ("from", start.toJson), ("to", target.toJson),
        ("duration_ms", jsonNumber durationMs)]
  | .virtualJoystick center radius tickMs swipeDurationMs => .object
      [("kind", .string "virtual_joystick"), ("center", center.toJson),
        ("radius", jsonNumber radius), ("tick_ms", jsonNumber tickMs),
        ("swipe_duration_ms", jsonNumber swipeDurationMs)]
  | .mouseAim anchor => .object [("kind", .string "mouse_aim"), ("anchor", anchor.toJson)]
  | .steps actions =>
    .object [("kind", .string "macro"), ("steps", .array (BindingAction.stepsToJson actions))]

def BindingAction.stepsToJson : List BindingAction → List Json
  | [] => []
  | action :: actions => action.toJson :: BindingAction.stepsToJson actions

end

def Binding.toJson (binding : Binding) : Json :=
  .object [("name", .string binding.name), ("input", binding.input.toJson),
    ("action", binding.action.toJson)]

def ControlProfile.toJson (profile : ControlProfile) : Json :=
  .object [("name", .string profile.name), ("package_name", .string profile.packageName),
    ("resolution", profile.resolution.toJson),
    ("bindings", .array (profile.bindings.map Binding.toJson))]

/-! ### Decoding -/

def Point.fromJson (value : Json) : Option Point := do
  let fields ← structFields ["x", "y"] value
  let x ← (← fields.lookup "x") |> decodeUnsigned u32Max
  let y ← (← fields.lookup "y") |> decodeUnsigned u32Max
  return ⟨x, y⟩

def Resolution.fromJson (value : Json) : Option Resolution := do
  let fields ← structFields ["width", "height"] value
  let width ← (← fields.lookup "width") |> decodeUnsigned u32Max
  let height ← (← fields.lookup "height") |> decodeUnsigned u32Max
  return ⟨width, height⟩

def BindingInput.tags : List String := ["key", "key_cluster", "mouse_button"]

def BindingInput.fromJson (value : Json) : Option BindingInput := do
  let (tag, content) ← taggedContent "kind" value
  match ← variantIndex BindingInput.tags false tag with
  | 0 => do
    let fields ← structFields ["key"] content
    let bound ← (← fields.lookup "key") |> decodeString
    return .key bound
  | 1 => do
    let fields ← structFields ["up", "left", "down", "right"] content
    let up ← (← fields.lookup "up") |> decodeString
    let left ← (← fields.lookup "left") |> decodeString
    let down ← (← fields.lookup "down") |> decodeString
    let right ← (← fields.lookup "right") |> decodeString
    return .keyCluster up left down right
  | _ => do
    let fields ← structFields ["button"] content
    let button ← (← fields.lookup "button") |> decodeString
    return .mouseButton button

def BindingAction.tags : List String := ["tap", "swipe", "virtual_joystick", "mouse_aim", "macro"]

/-- An action with actions in it, `fuel` deep at most; no text is nested deeper than the
`recursionLimit`. -/
def BindingAction.fromJson : (fuel : ℕ) → (buffered : Bool) → Json → Option BindingAction
  | 0, _, _ => none
  | fuel + 1, buffered, value => do
    let (tag, content) ← taggedContent "kind" value
    match ← variantIndex BindingAction.tags buffered tag with
    | 0 => do
      let fields ← structFields ["point"] content
      let point ← (← fields.lookup "point") |> Point.fromJson
      return .tap point
    | 1 => do
      let fields ← structFields ["from", "to", "duration_ms"] content
      let start ← (← fields.lookup "from") |> Point.fromJson
      let target ← (← fields.lookup "to") |> Point.fromJson
      let durationMs ← (← fields.lookup "duration_ms") |> decodeUnsigned u64Max
      return .swipe start target durationMs
    | 2 => do
      let fields ← structFields ["center", "radius", "tick_ms", "swipe_duration_ms"] content
      let center ← (← fields.lookup "center") |> Point.fromJson
      let radius ← (← fields.lookup "radius") |> decodeUnsigned u32Max
      let tickMs ← (← fields.lookup "tick_ms") |> decodeUnsigned u64Max
      let swipeDurationMs ← (← fields.lookup "swipe_duration_ms") |> decodeUnsigned u64Max
      return .virtualJoystick center radius tickMs swipeDurationMs
    | 3 => do
      let fields ← structFields ["anchor"] content
      let anchor ← (← fields.lookup "anchor") |> Point.fromJson
      return .mouseAim anchor
    | _ => do
      let fields ← structFields ["steps"] content
      let items ← (← fields.lookup "steps") |> decodeArray
      let actions ← items.mapM (BindingAction.fromJson fuel true)
      return .steps actions

def Binding.fromJson (value : Json) : Option Binding := do
  let fields ← structFields ["name", "input", "action"] value
  let name ← (← fields.lookup "name") |> decodeString
  let input ← (← fields.lookup "input") |> BindingInput.fromJson
  let action ← (← fields.lookup "action") |> BindingAction.fromJson recursionLimit false
  return ⟨name, input, action⟩

/-- A profile without a package has an empty one. -/
def ControlProfile.fromJson (value : Json) : Option ControlProfile := do
  let fields ← structFields ["name", "package_name", "resolution", "bindings"] value
  let name ← (← fields.lookup "name") |> decodeString
  let packageName ← ((fields.lookup "package_name").map decodeString).getD (some "")
  let resolution ← (← fields.lookup "resolution") |> Resolution.fromJson
  let items ← (← fields.lookup "bindings") |> decodeArray
  let bindings ← items.mapM Binding.fromJson
  return ⟨name, packageName, resolution, bindings⟩

/-! ### Files -/

def ControlProfile.text (profile : ControlProfile) : List UInt8 := utf8Bytes (jsonText 0 profile.toJson)

inductive ProfileError
  | io (error : FileError)
  | json
  deriving DecidableEq

/-- What is made of a file that was read.  A file that is no text has not been read. -/
def ControlProfile.load : Except FileError (List UInt8) → Except ProfileError ControlProfile
  | .error error => .error (.io error)
  | .ok bytes =>
    match String.fromUTF8? bytes.toByteArray with
    | none => .error (.io (.other "stream did not contain valid UTF-8"))
    | some data =>
      match (parseJson data.toList).bind ControlProfile.fromJson with
      | none => .error .json
      | some profile => .ok profile

/-! ### Numbers that fit their types -/

def Point.Fits (point : Point) : Prop := point.x ≤ u32Max ∧ point.y ≤ u32Max

mutual

def BindingAction.Fits : BindingAction → Prop
  | .tap point => point.Fits
  | .swipe start target durationMs => start.Fits ∧ target.Fits ∧ durationMs ≤ u64Max
  | .virtualJoystick center radius tickMs swipeDurationMs =>
    center.Fits ∧ radius ≤ u32Max ∧ tickMs ≤ u64Max ∧ swipeDurationMs ≤ u64Max
  | .mouseAim anchor => anchor.Fits
  | .steps actions => BindingAction.StepsFit actions

def BindingAction.StepsFit : List BindingAction → Prop
  | [] => True
  | action :: actions => action.Fits ∧ BindingAction.StepsFit actions

end

structure ControlProfile.Fits (profile : ControlProfile) : Prop where
  width : profile.resolution.width ≤ u32Max
  height : profile.resolution.height ≤ u32Max
  actions : ∀ binding ∈ profile.bindings, binding.action.Fits

/-! ### What is encoded is decoded -/

theorem Point.fromJson_toJson {point : Point} (h : point.Fits) :
    Point.fromJson point.toJson = some point := by
  rw [Point.toJson, Point.fromJson, structFields_object (by simp) (by simp)]
  simp [List.lookup_cons, jsonNumber, h.1, h.2]

theorem Resolution.fromJson_toJson {resolution : Resolution} (hw : resolution.width ≤ u32Max)
    (hh : resolution.height ≤ u32Max) : Resolution.fromJson resolution.toJson = some resolution := by
  rw [Resolution.toJson, Resolution.fromJson, structFields_object (by simp) (by simp)]
  simp [List.lookup_cons, jsonNumber, hw, hh]

theorem BindingInput.fromJson_toJson (input : BindingInput) :
    BindingInput.fromJson input.toJson = some input := by
  cases input with
  | key bound =>
    have hindex : variantIndex BindingInput.tags false (.string "key") = some 0 := rfl
    rw [BindingInput.toJson, BindingInput.fromJson, taggedContent_object (by simp)]
    simp only [Option.bind_eq_bind, Option.bind_some, hindex]
    rw [structFields_object (by simp) (by simp)]
    rfl
  | keyCluster up left down right =>
    have hindex : variantIndex BindingInput.tags false (.string "key_cluster") = some 1 :=
      rfl
    rw [BindingInput.toJson, BindingInput.fromJson, taggedContent_object (by simp)]
    simp only [Option.bind_eq_bind, Option.bind_some, hindex]
    rw [structFields_object (by simp) (by simp)]
    rfl
  | mouseButton button =>
    have hindex : variantIndex BindingInput.tags false (.string "mouse_button") = some 2 :=
      rfl
    rw [BindingInput.toJson, BindingInput.fromJson, taggedContent_object (by simp)]
    simp only [Option.bind_eq_bind, Option.bind_some, hindex]
    rw [structFields_object (by simp) (by simp)]
    rfl

mutual

/-- An action is decoded as it was encoded, buffered or not. -/
theorem BindingAction.fromJson_toJson (action : BindingAction) (h : action.Fits) (fuel : ℕ)
    (buffered : Bool) (hfuel : action.toJson.height ≤ fuel) :
    BindingAction.fromJson fuel buffered action.toJson = some action := by
  have hpos : 0 < action.toJson.height := by
    cases action <;> simp [BindingAction.toJson, Json.height]
  cases fuel with
  | zero => exact absurd hfuel (not_le.mpr hpos)
  | succ fuel =>
    cases action with
    | tap point =>
      rw [BindingAction.Fits] at h
      have hindex : variantIndex BindingAction.tags buffered (.string "tap") = some 0 := rfl
      rw [BindingAction.toJson, BindingAction.fromJson, taggedContent_object (by simp)]
      simp only [Option.bind_eq_bind, Option.bind_some, hindex]
      rw [structFields_object (by simp) (by simp)]
      simp [Point.fromJson_toJson h]
    | swipe start target durationMs =>
      rw [BindingAction.Fits] at h
      have hindex : variantIndex BindingAction.tags buffered (.string "swipe") = some 1 := rfl
      obtain ⟨hstart, htarget, hduration⟩ := h
      rw [BindingAction.toJson, BindingAction.fromJson, taggedContent_object (by simp)]
      simp only [Option.bind_eq_bind, Option.bind_some, hindex]
      rw [structFields_object (by simp) (by simp)]
      simp [List.lookup_cons, Point.fromJson_toJson hstart, Point.fromJson_toJson htarget, jsonNumber,
        hduration]
    | virtualJoystick center radius tickMs swipeDurationMs =>
      rw [BindingAction.Fits] at h
      have hindex : variantIndex BindingAction.tags buffered (.string "virtual_joystick") = some 2 := rfl
      obtain ⟨hcenter, hradius, htick, hswipe⟩ := h
      rw [BindingAction.toJson, BindingAction.fromJson, taggedContent_object (by simp)]
      simp only [Option.bind_eq_bind, Option.bind_some, hindex]
      rw [structFields_object (by simp) (by simp)]
      simp [List.lookup_cons, Point.fromJson_toJson hcenter, jsonNumber, hradius, htick, hswipe]
    | mouseAim anchor =>
      rw [BindingAction.Fits] at h
      have hindex : variantIndex BindingAction.tags buffered (.string "mouse_aim") = some 3 := rfl
      rw [BindingAction.toJson, BindingAction.fromJson, taggedContent_object (by simp)]
      simp only [Option.bind_eq_bind, Option.bind_some, hindex]
      rw [structFields_object (by simp) (by simp)]
      simp [Point.fromJson_toJson h]
    | steps actions =>
      rw [BindingAction.Fits] at h
      have hindex : variantIndex BindingAction.tags buffered (.string "macro") = some 4 := rfl
      have hsteps : Json.itemsHeight (BindingAction.stepsToJson actions) ≤ fuel := by
        simp only [BindingAction.toJson, Json.height, Json.fieldsHeight] at hfuel
        omega
      have hactions := BindingAction.mapM_fromJson_stepsToJson actions h fuel hsteps
      rw [BindingAction.toJson, BindingAction.fromJson, taggedContent_object (by simp)]
      simp only [Option.bind_eq_bind, Option.bind_some, hindex]
      rw [structFields_object (by simp) (by simp)]
      simp [decodeArray, hactions]

theorem BindingAction.mapM_fromJson_stepsToJson (actions : List BindingAction)
    (h : BindingAction.StepsFit actions) (fuel : ℕ)
    (hfuel : Json.itemsHeight (BindingAction.stepsToJson actions) ≤ fuel) :
    (BindingAction.stepsToJson actions).mapM (BindingAction.fromJson fuel true) = some actions := by
  cases actions with
  | nil =>
    rw [BindingAction.stepsToJson]
    rfl
  | cons action actions =>
    rw [BindingAction.StepsFit] at h
    rw [BindingAction.stepsToJson, Json.itemsHeight, max_le_iff] at hfuel
    have haction := BindingAction.fromJson_toJson action h.1 fuel true hfuel.1
    have hactions := BindingAction.mapM_fromJson_stepsToJson actions h.2 fuel hfuel.2
    rw [BindingAction.stepsToJson, List.mapM_cons, haction, hactions]
    rfl

end

theorem Binding.fromJson_toJson {binding : Binding} (h : binding.action.Fits)
    (hheight : binding.toJson.height ≤ recursionLimit) :
    Binding.fromJson binding.toJson = some binding := by
  have haction : binding.action.toJson.height ≤ recursionLimit := by
    simp only [Binding.toJson, Json.height, Json.fieldsHeight] at hheight
    omega
  have hdecoded := BindingAction.fromJson_toJson binding.action h recursionLimit false haction
  rw [Binding.toJson, Binding.fromJson, structFields_object (by simp) (by simp)]
  simp [List.lookup_cons, decodeString, BindingInput.fromJson_toJson, hdecoded]

theorem ControlProfile.fromJson_toJson {profile : ControlProfile} (h : profile.Fits)
    (hheight : profile.toJson.height ≤ recursionLimit) :
    ControlProfile.fromJson profile.toJson = some profile := by
  have hbindings : ∀ items : List Binding, (∀ binding ∈ items, binding ∈ profile.bindings) →
      (items.map Binding.toJson).mapM Binding.fromJson = some items := by
    intro items hitems
    induction items with
    | nil => rfl
    | cons binding rest ih =>
      have hmem := hitems binding List.mem_cons_self
      have hbinding : binding.toJson.height ≤ recursionLimit := by
        have hle := height_le_of_mem_items (List.mem_map_of_mem (f := Binding.toJson) hmem)
        simp only [ControlProfile.toJson, Json.height, Json.fieldsHeight] at hheight
        omega
      rw [List.map_cons, List.mapM_cons, Binding.fromJson_toJson (h.actions _ hmem) hbinding,
        ih fun b hb => hitems b (List.mem_cons_of_mem _ hb)]
      rfl
  rw [ControlProfile.toJson, ControlProfile.fromJson, structFields_object (by simp) (by simp)]
  simp [List.lookup_cons, decodeString, decodeArray, Resolution.fromJson_toJson h.width h.height,
    hbindings _ fun _ hb => hb]

/-! ### What is decoded fits -/

theorem Point.height_toJson (point : Point) : point.toJson.height = 2 := by
  simp [Point.toJson, jsonNumber, Json.height, Json.fieldsHeight]

theorem Point.of_fromJson {value : Json} {point : Point} (h : Point.fromJson value = some point) :
    point.Fits ∧ point.toJson.height ≤ value.height := by
  simp only [Point.fromJson, Option.bind_eq_bind, Option.bind_eq_some_iff, Option.pure_def,
    Option.some.injEq] at h
  obtain ⟨fields, hfields, _, -, x, hx, _, -, y, hy, rfl⟩ := h
  rw [Point.height_toJson]
  exact ⟨⟨le_of_decodeUnsigned hx, le_of_decodeUnsigned hy⟩, (height_lt_of_structFields hfields).1⟩

theorem Resolution.of_fromJson {value : Json} {resolution : Resolution}
    (h : Resolution.fromJson value = some resolution) :
    resolution.width ≤ u32Max ∧ resolution.height ≤ u32Max ∧
      resolution.toJson.height ≤ value.height := by
  simp only [Resolution.fromJson, Option.bind_eq_bind, Option.bind_eq_some_iff, Option.pure_def,
    Option.some.injEq] at h
  obtain ⟨fields, hfields, _, -, width, hwidth, _, -, height, hheight, rfl⟩ := h
  refine ⟨le_of_decodeUnsigned hwidth, le_of_decodeUnsigned hheight, ?_⟩
  have hle := (height_lt_of_structFields hfields).1
  simp only [Resolution.toJson, jsonNumber, Json.height, Json.fieldsHeight]
  omega

theorem BindingInput.height_le_of_fromJson {value : Json} {input : BindingInput}
    (h : BindingInput.fromJson value = some input) : input.toJson.height ≤ value.height := by
  have htwo : input.toJson.height = 2 := by
    cases input <;> simp [BindingInput.toJson, Json.height, Json.fieldsHeight]
  rw [htwo]
  simp only [BindingInput.fromJson, Option.bind_eq_bind, Option.bind_eq_some_iff] at h
  obtain ⟨⟨tag, content⟩, hcontent, h⟩ := h
  have hle := height_le_of_taggedContent hcontent
  obtain ⟨index, -, h⟩ := h
  split at h
  · simp only [Option.bind_eq_some_iff] at h
    obtain ⟨_, hfields, -⟩ := h
    exact (height_lt_of_structFields hfields).1.trans hle
  · simp only [Option.bind_eq_some_iff] at h
    obtain ⟨_, hfields, -⟩ := h
    exact (height_lt_of_structFields hfields).1.trans hle
  · simp only [Option.bind_eq_some_iff] at h
    obtain ⟨_, hfields, -⟩ := h
    exact (height_lt_of_structFields hfields).1.trans hle

/-- What each of some values is decoded to fits, if what one is decoded to does. -/
theorem BindingAction.of_mapM {fuel : ℕ}
    (ih : ∀ value action, BindingAction.fromJson fuel true value = some action →
      action.Fits ∧ action.toJson.height ≤ value.height) {items : List Json}
    {actions : List BindingAction} (h : items.mapM (BindingAction.fromJson fuel true) = some actions) :
    BindingAction.StepsFit actions ∧
      Json.itemsHeight (BindingAction.stepsToJson actions) ≤ Json.itemsHeight items := by
  induction items generalizing actions with
  | nil =>
    obtain rfl : [] = actions := by simpa using h
    simp [BindingAction.StepsFit, BindingAction.stepsToJson]
  | cons item items ihItems =>
    rw [List.mapM_cons] at h
    simp only [Option.bind_eq_bind, Option.bind_eq_some_iff, Option.pure_def, Option.some.injEq] at h
    obtain ⟨action, haction, rest, hrest, rfl⟩ := h
    obtain ⟨hfits, hheight⟩ := ih item action haction
    obtain ⟨hfits', hheight'⟩ := ihItems hrest
    rw [BindingAction.StepsFit, BindingAction.stepsToJson, Json.itemsHeight, Json.itemsHeight]
    exact ⟨⟨hfits, hfits'⟩, max_le_max hheight hheight'⟩

theorem BindingAction.of_fromJson (fuel : ℕ) (buffered : Bool) (value : Json) (action : BindingAction)
    (h : BindingAction.fromJson fuel buffered value = some action) :
    action.Fits ∧ action.toJson.height ≤ value.height := by
  induction fuel generalizing buffered value action with
  | zero => simp [BindingAction.fromJson] at h
  | succ fuel ih =>
    simp only [BindingAction.fromJson, Option.bind_eq_bind, Option.bind_eq_some_iff] at h
    obtain ⟨⟨tag, content⟩, hcontent, index, -, h⟩ := h
    have hle := height_le_of_taggedContent hcontent
    split at h
    · simp only [Option.bind_eq_some_iff, Option.pure_def, Option.some.injEq] at h
      obtain ⟨fields, hfields, pointValue, hlookup, point, hpoint, rfl⟩ := h
      have hlt := (height_lt_of_structFields hfields).2 _ _ hlookup
      obtain ⟨hfits, hheight⟩ := Point.of_fromJson hpoint
      rw [Point.height_toJson] at hheight
      refine ⟨by rwa [BindingAction.Fits], ?_⟩
      simp only [BindingAction.toJson, Json.height, Json.fieldsHeight, Point.height_toJson]
      omega
    · simp only [Option.bind_eq_some_iff, Option.pure_def, Option.some.injEq] at h
      obtain ⟨fields, hfields, startValue, hlookup, start, hstart, targetValue, -, target, htarget, _,
        -, durationMs, hduration, rfl⟩ := h
      have hlt := (height_lt_of_structFields hfields).2 _ _ hlookup
      obtain ⟨hfits, hheight⟩ := Point.of_fromJson hstart
      rw [Point.height_toJson] at hheight
      rw [BindingAction.Fits]
      refine ⟨⟨hfits, (Point.of_fromJson htarget).1, le_of_decodeUnsigned hduration⟩, ?_⟩
      simp only [BindingAction.toJson, jsonNumber, Json.height, Json.fieldsHeight, Point.height_toJson]
      omega
    · simp only [Option.bind_eq_some_iff, Option.pure_def, Option.some.injEq] at h
      obtain ⟨fields, hfields, centerValue, hlookup, center, hcenter, _, -, radius, hradius, _, -,
        tickMs, htick, _, -, swipeDurationMs, hswipe, rfl⟩ := h
      have hlt := (height_lt_of_structFields hfields).2 _ _ hlookup
      obtain ⟨hfits, hheight⟩ := Point.of_fromJson hcenter
      rw [Point.height_toJson] at hheight
      rw [BindingAction.Fits]
      refine ⟨⟨hfits, le_of_decodeUnsigned hradius, le_of_decodeUnsigned htick,
        le_of_decodeUnsigned hswipe⟩, ?_⟩
      simp only [BindingAction.toJson, jsonNumber, Json.height, Json.fieldsHeight, Point.height_toJson]
      omega
    · simp only [Option.bind_eq_some_iff, Option.pure_def, Option.some.injEq] at h
      obtain ⟨fields, hfields, pointValue, hlookup, point, hpoint, rfl⟩ := h
      have hlt := (height_lt_of_structFields hfields).2 _ _ hlookup
      obtain ⟨hfits, hheight⟩ := Point.of_fromJson hpoint
      rw [Point.height_toJson] at hheight
      refine ⟨by rwa [BindingAction.Fits], ?_⟩
      simp only [BindingAction.toJson, Json.height, Json.fieldsHeight, Point.height_toJson]
      omega
    · simp only [Option.bind_eq_some_iff, Option.pure_def, Option.some.injEq] at h
      obtain ⟨fields, hfields, stepsValue, hlookup, items, hitems, actions, hactions, rfl⟩ := h
      have hlt := (height_lt_of_structFields hfields).2 _ _ hlookup
      obtain rfl := eq_array_of_decodeArray hitems
      obtain ⟨hfits, hheight⟩ := BindingAction.of_mapM (ih true) hactions
      rw [BindingAction.Fits]
      refine ⟨hfits, ?_⟩
      have hpos := one_le_itemsHeight (BindingAction.stepsToJson actions)
      simp only [BindingAction.toJson, Json.height, Json.fieldsHeight] at hlt ⊢
      omega

theorem Binding.of_fromJson {value : Json} {binding : Binding}
    (h : Binding.fromJson value = some binding) :
    binding.action.Fits ∧ binding.toJson.height ≤ value.height := by
  simp only [Binding.fromJson, Option.bind_eq_bind, Option.bind_eq_some_iff, Option.pure_def,
    Option.some.injEq] at h
  obtain ⟨fields, hfields, _, -, name, -, inputValue, hinputValue, input, hinput, actionValue,
    hactionValue, action, haction, rfl⟩ := h
  obtain ⟨htwo, hlt⟩ := height_lt_of_structFields hfields
  have hinputLt := hlt _ _ hinputValue
  have hactionLt := hlt _ _ hactionValue
  have hinputLe := BindingInput.height_le_of_fromJson hinput
  obtain ⟨hfits, hactionLe⟩ := BindingAction.of_fromJson _ _ _ _ haction
  refine ⟨hfits, ?_⟩
  simp only [Binding.toJson, Json.height, Json.fieldsHeight]
  omega

/-- The numbers of a decoded profile fit, and it is not nested deeper than what it was decoded
from. -/
theorem ControlProfile.of_fromJson {value : Json} {profile : ControlProfile}
    (h : ControlProfile.fromJson value = some profile) :
    profile.Fits ∧ profile.toJson.height ≤ value.height := by
  simp only [ControlProfile.fromJson, Option.bind_eq_bind, Option.bind_eq_some_iff, Option.pure_def,
    Option.some.injEq] at h
  obtain ⟨fields, hfields, _, -, name, -, packageName, -, resolutionValue, hresolutionValue,
    resolution, hresolution, bindingsValue, hbindingsValue, items, hitems, bindings, hbindings,
    rfl⟩ := h
  obtain ⟨htwo, hlt⟩ := height_lt_of_structFields hfields
  have hresolutionLt := hlt _ _ hresolutionValue
  have hbindingsLt := hlt _ _ hbindingsValue
  obtain ⟨hwidth, hheight, hresolutionLe⟩ := Resolution.of_fromJson hresolution
  obtain rfl := eq_array_of_decodeArray hitems
  have hall : ∀ {items : List Json} {bindings : List Binding},
      items.mapM Binding.fromJson = some bindings →
        (∀ binding ∈ bindings, binding.action.Fits) ∧
          Json.itemsHeight (bindings.map Binding.toJson) ≤ Json.itemsHeight items := by
    intro items
    induction items with
    | nil =>
      intro bindings h
      obtain rfl : [] = bindings := by simpa using h
      simp
    | cons item items ih =>
      intro bindings h
      rw [List.mapM_cons] at h
      simp only [Option.bind_eq_bind, Option.bind_eq_some_iff, Option.pure_def,
        Option.some.injEq] at h
      obtain ⟨binding, hbinding, rest, hrest, rfl⟩ := h
      obtain ⟨hfits, hle⟩ := Binding.of_fromJson hbinding
      obtain ⟨hfits', hle'⟩ := ih hrest
      refine ⟨List.forall_mem_cons.mpr ⟨hfits, hfits'⟩, ?_⟩
      rw [List.map_cons, Json.itemsHeight, Json.itemsHeight]
      exact max_le_max hle hle'
  obtain ⟨hfits, hbindingsLe⟩ := hall hbindings
  refine ⟨⟨hwidth, hheight, hfits⟩, ?_⟩
  simp only [ControlProfile.toJson, Json.height, Json.fieldsHeight] at hbindingsLt ⊢
  omega

/-! ### Files -/

theorem jsonNumber_whole (n : ℕ) : (jsonNumber n).Whole := by
  rw [jsonNumber, Json.Whole]
  exact ⟨n, rfl⟩

theorem Point.toJson_whole (point : Point) : point.toJson.Whole := by
  simp [Point.toJson, Json.Whole, Json.FieldsWhole, jsonNumber_whole]

theorem BindingInput.toJson_whole (input : BindingInput) : input.toJson.Whole := by
  cases input <;> simp [BindingInput.toJson, Json.Whole, Json.FieldsWhole]

mutual

theorem BindingAction.toJson_whole (action : BindingAction) : action.toJson.Whole := by
  cases action with
  | steps actions =>
    have hactions := BindingAction.stepsToJson_whole actions
    simp [BindingAction.toJson, Json.Whole, Json.FieldsWhole, hactions]
  | tap point | mouseAim anchor =>
    simp [BindingAction.toJson, Json.Whole, Json.FieldsWhole, Point.toJson_whole]
  | swipe start target durationMs =>
    simp [BindingAction.toJson, Json.Whole, Json.FieldsWhole, Point.toJson_whole, jsonNumber_whole]
  | virtualJoystick center radius tickMs swipeDurationMs =>
    simp [BindingAction.toJson, Json.Whole, Json.FieldsWhole, Point.toJson_whole, jsonNumber_whole]

theorem BindingAction.stepsToJson_whole (actions : List BindingAction) :
    Json.ItemsWhole (BindingAction.stepsToJson actions) := by
  cases actions with
  | nil => simp [BindingAction.stepsToJson, Json.ItemsWhole]
  | cons action actions =>
    rw [BindingAction.stepsToJson, Json.ItemsWhole]
    exact ⟨BindingAction.toJson_whole action, BindingAction.stepsToJson_whole actions⟩

end

theorem ControlProfile.toJson_whole (profile : ControlProfile) : profile.toJson.Whole := by
  have hbindings : ∀ bindings : List Binding, Json.ItemsWhole (bindings.map Binding.toJson) := by
    intro bindings
    induction bindings with
    | nil => simp [Json.ItemsWhole]
    | cons binding bindings ih =>
      rw [List.map_cons, Json.ItemsWhole]
      refine ⟨?_, ih⟩
      simp [Binding.toJson, Json.Whole, Json.FieldsWhole, BindingInput.toJson_whole,
        BindingAction.toJson_whole]
  simp [ControlProfile.toJson, Resolution.toJson, Json.Whole, Json.FieldsWhole, jsonNumber_whole,
    hbindings]

/-- **A profile is read from its file as it was written**, if its actions are not nested too deep. -/
theorem ControlProfile.load_text {profile : ControlProfile} (h : profile.Fits)
    (hheight : profile.toJson.height ≤ recursionLimit) :
    ControlProfile.load (.ok profile.text) = .ok profile := by
  have hparse := parseJson_jsonText profile.toJson_whole hheight
  simp only [ControlProfile.load, ControlProfile.text, fromUTF8?_utf8Bytes, String.toList_ofList,
    hparse, Option.bind_some, ControlProfile.fromJson_toJson h hheight]

theorem ControlProfile.load_ok {bytes : List UInt8} {profile : ControlProfile}
    (h : ControlProfile.load (.ok bytes) = .ok profile) :
    profile.Fits ∧ profile.toJson.height ≤ recursionLimit := by
  simp only [ControlProfile.load] at h
  split at h
  · cases h
  · split at h
    · cases h
    · next data _ profile' hsome =>
      obtain rfl : profile' = profile := by simpa using h
      obtain ⟨value, hparse, hdecoded⟩ := Option.bind_eq_some_iff.mp hsome
      obtain ⟨hfits, hle⟩ := ControlProfile.of_fromJson hdecoded
      exact ⟨hfits, hle.trans (height_parseJson hparse)⟩

/-- No action of an accepted profile holds other actions. -/
theorem ControlProfile.height_le {profile : ControlProfile} (h : profile.validate = .ok ()) :
    profile.toJson.height ≤ 6 := by
  obtain ⟨-, -, -, -, hbindings, -⟩ := validate_eq_ok.mp h
  have hitems : ∀ bindings : List Binding, (∀ binding ∈ bindings, binding ∈ profile.bindings) →
      Json.itemsHeight (bindings.map Binding.toJson) ≤ 4 := by
    intro bindings hmem
    induction bindings with
    | nil => simp [Json.itemsHeight]
    | cons binding bindings ih =>
      have hrest := ih fun b hb => hmem b (List.mem_cons_of_mem _ hb)
      have hfine := (hbindings binding (hmem binding List.mem_cons_self)).2.2
      have hinput : binding.input.toJson.height ≤ 2 := by
        cases binding.input <;> simp [BindingInput.toJson, Json.height, Json.fieldsHeight]
      have haction : binding.action.toJson.height ≤ 3 := by
        cases haction : binding.action with
        | steps actions =>
          rw [haction] at hfine
          exact hfine.elim
        | tap | swipe | virtualJoystick | mouseAim =>
          simp [BindingAction.toJson, Point.toJson, jsonNumber, Json.height, Json.fieldsHeight]
      rw [List.map_cons, Json.itemsHeight, max_le_iff]
      refine ⟨?_, hrest⟩
      simp only [Binding.toJson, Json.height, Json.fieldsHeight]
      omega
  have hbound := hitems profile.bindings fun _ hb => hb
  simp only [ControlProfile.toJson, Resolution.toJson, jsonNumber, Json.height, Json.fieldsHeight]
  omega

/-- An accepted profile is read as it was written. -/
theorem ControlProfile.load_text_of_valid {profile : ControlProfile} (h : profile.Fits)
    (hvalid : profile.validate = .ok ()) : ControlProfile.load (.ok profile.text) = .ok profile :=
  ControlProfile.load_text h ((ControlProfile.height_le hvalid).trans (by decide))

/-- **Which profiles a file can hold.**  A profile is read from some file exactly when it is read
from the file it is written to, and that is when its numbers fit their types and it is not nested
too deep. -/
theorem ControlProfile.loadable_iff (profile : ControlProfile) :
    ((∃ bytes, ControlProfile.load (.ok bytes) = .ok profile) ↔
      ControlProfile.load (.ok profile.text) = .ok profile) ∧
    (ControlProfile.load (.ok profile.text) = .ok profile ↔
      profile.Fits ∧ profile.toJson.height ≤ recursionLimit) := by
  have hholds : profile.Fits ∧ profile.toJson.height ≤ recursionLimit →
      ControlProfile.load (.ok profile.text) = .ok profile :=
    fun h => ControlProfile.load_text h.1 h.2
  refine ⟨⟨?_, fun h => ⟨_, h⟩⟩, ControlProfile.load_ok, hholds⟩
  rintro ⟨bytes, h⟩
  exact hholds (ControlProfile.load_ok h)

end Wroid
