import Wroid.Hub.PreferencesSafety

/-!
# What a patch sets

The body of a request names some fields of the preferences and gives their values.  The fields of
a patch are options: a field that is missing keeps its value.  A device is an option of an option,
as it may change to none, but the outer option already takes a `null` for a missing field.

## Main definitions

* `Merges`, `Acceptable` — what an object asks for, and which values may be given.
* `Honoured` — a request does what its object asks for, or is refused.
* `Clear`, `Hopeless` — no `null` asks for a change; a request that is refused anyway.

## Main results

* `patch_honoured_iff` — **a request is honoured, whatever fails meanwhile, if and only if it is
  refused anyway or no `null` asks for a change**.
* `null_keeps_keyboard` — a `null` that should clear the keyboard.
-/

namespace Wroid.Preferences

open Lib
open LastSession (readIfSome)
open BridgeBroker (optionalField stringOf)

/-! ### What an object asks for -/

def deviceJson : Option String → Json
  | none => .null
  | some path => .string path

/-- The preferences have the value of the field. -/
def Sets (preferences : UserPreferences) (field : String × Json) : Prop :=
  field.1 = "resolution" ∧ field.2 = .string preferences.resolution ∨
  field.1 = "keyboard" ∧ field.2 = deviceJson preferences.keyboard ∨
  field.1 = "mouse" ∧ field.2 = deviceJson preferences.mouse ∨
  field.1 = "gameMode" ∧ field.2 = .bool preferences.gameMode

def Absent (name : String) (fields : List (String × Json)) : Prop := ∀ field ∈ fields, field.1 ≠ name

/-- The fields that are present are set, and the others kept. -/
structure Merges (fields : List (String × Json)) (before after : UserPreferences) : Prop where
  present : ∀ field ∈ fields, Sets after field
  resolution : Absent "resolution" fields → after.resolution = before.resolution
  keyboard : Absent "keyboard" fields → after.keyboard = before.keyboard
  mouse : Absent "mouse" fields → after.mouse = before.mouse
  gameMode : Absent "gameMode" fields → after.gameMode = before.gameMode
  schemaVersion : after.schemaVersion = before.schemaVersion

/-- The field is known, and its value may be given. -/
def Acceptable (field : String × Json) : Prop :=
  field.1 = "resolution" ∧
    (∃ resolution ∈ ["1280x720", "1600x900", "1920x1080"], field.2 = .string resolution) ∨
  field.1 = "keyboard" ∧
    (∃ keyboard, validateDevicePath "keyboard" keyboard = .ok () ∧ field.2 = deviceJson keyboard) ∨
  field.1 = "mouse" ∧
    (∃ mouse, validateDevicePath "mouse" mouse = .ok () ∧ field.2 = deviceJson mouse) ∨
  field.1 = "gameMode" ∧ ∃ gameMode, field.2 = .bool gameMode

/-- What the request returns when nobody else makes one, and the files afterwards. -/
def requestOutcome (faults : FileOp PreferencesName → Option Fault) (directory : String) (process : ℕ)
    (body : List UInt8) (s : PreferencesFiles) : Except String UserPreferences × PreferencesFiles :=
  (updateDefault directory process body).runWith (perform faults 0) s

/-- A request that is accepted stores what its object asks for; one with a field that is unknown
or may not have its value is refused and changes nothing. -/
structure Honoured (directory : String) (fields : List (String × Json)) (before : UserPreferences)
    (s : PreferencesFiles) (outcome : Except String UserPreferences × PreferencesFiles) : Prop where
  accepted : ∀ after, outcome.1 = .ok after → Merges fields before after ∧
    loaded directory (found (outcome.2.files.content .preferences)) = .ok after
  refused : (∃ field ∈ fields, ¬ Acceptable field) → (∃ error, outcome.1 = .error error) ∧
    outcome.2.files.content .preferences = s.files.content .preferences

/-! ### When it is honoured -/

/-- A `null` is given only where the preferences have nothing anyway. -/
def Clear (fields : List (String × Json)) (before : UserPreferences) : Prop :=
  ∀ field ∈ fields, field.2 = .null → Sets before field

/-- A field is named twice, or is unknown, or has a value other than `null` that it may not have. -/
def Hopeless (fields : List (String × Json)) : Prop :=
  ¬ (fields.map Prod.fst).Nodup ∨ ∃ field ∈ fields,
    field.1 ∉ ["resolution", "keyboard", "mouse", "gameMode"] ∨ field.2 ≠ .null ∧ ¬ Acceptable field

/-! ### Looking a field up -/

section Fields

variable {fields : List (String × Json)} {name : String} {value : Json}

theorem optionalField_eq_none (h : optionalField name fields = some none) : Absent name fields := by
  intro field hmem heq
  have hfilter : field ∈ fields.filter (·.1 = name) := by simp [hmem, heq]
  unfold optionalField at h
  cases hcases : fields.filter (·.1 = name) with
  | nil =>
    rw [hcases] at hfilter
    cases hfilter
  | cons first rest =>
    rw [hcases] at h
    cases rest <;> simp at h

theorem optionalField_eq_some (h : optionalField name fields = some (some value)) :
    (name, value) ∈ fields ∧ ∀ field ∈ fields, field.1 = name → field.2 = value := by
  unfold optionalField at h
  cases hcases : fields.filter (·.1 = name) with
  | nil => simp [hcases] at h
  | cons first rest =>
    rw [hcases] at h
    cases rest with
    | cons second rest => simp at h
    | nil =>
      obtain rfl : first.2 = value := by simpa using h
      have hfirst : first ∈ fields.filter (·.1 = name) := by rw [hcases]; exact List.mem_cons_self
      obtain ⟨hmem, hname⟩ := List.mem_filter.mp hfirst
      refine ⟨?_, fun field hfield heq => ?_⟩
      · rw [← of_decide_eq_true hname]
        exact hmem
      · have hother : field ∈ fields.filter (·.1 = name) := by simp [hfield, heq]
        rw [hcases, List.mem_singleton] at hother
        rw [hother]

/-- A field that is not named twice is there or not. -/
theorem optionalField_of_nodup (h : (fields.map Prod.fst).Nodup) :
    ∃ given, optionalField name fields = some given := by
  unfold optionalField
  cases hcases : fields.filter (·.1 = name) with
  | nil => exact ⟨none, rfl⟩
  | cons first rest =>
    cases rest with
    | nil => exact ⟨some first.2, rfl⟩
    | cons second rest =>
      have hsublist : (fields.filter (·.1 = name)).Sublist fields := List.filter_sublist
      have hnodup := (hsublist.map Prod.fst).nodup h
      have hname : ∀ field ∈ fields.filter (·.1 = name), field.1 = name := by
        intro field hmem
        exact of_decide_eq_true (List.mem_filter.mp hmem).2
      rw [hcases] at hnodup hname
      have hsame : first.1 = second.1 := (hname first (by simp)).trans (hname second (by simp)).symm
      simp [hsame] at hnodup

end Fields

/-! ### What a field asks for -/

section Asked

variable {α : Type} {toJson : α → Json} {read : Json → Option α} {given : Option Json}
  {asked : Option α}

/-- A value is asked for, unless the field is missing or `null`. -/
def Asked (toJson : α → Json) (given : Option Json) (asked : Option α) : Prop :=
  (given = none ∨ given = some .null) ∧ asked = none ∨
    ∃ a, given = some (toJson a) ∧ toJson a ≠ .null ∧ asked = some a

theorem readIfSome_eq_some (hread : ∀ value a, value ≠ .null → (read value = some a ↔ value = toJson a)) :
    readIfSome read given = some asked ↔ Asked toJson given asked := by
  constructor
  · intro h
    unfold readIfSome at h
    split at h
    · exact .inl ⟨.inl rfl, (Option.some.inj h).symm⟩
    · exact .inl ⟨.inr rfl, (Option.some.inj h).symm⟩
    · next value hne =>
      obtain ⟨a, ha, rfl⟩ := Option.map_eq_some_iff.mp h
      have hvalue : value ≠ .null := fun hnull => hne hnull
      have heq := (hread value a hvalue).mp ha
      exact .inr ⟨a, by rw [heq], by rwa [← heq], rfl⟩
  · rintro (⟨rfl | rfl, rfl⟩ | ⟨a, rfl, hne, rfl⟩)
    · rfl
    · rfl
    · have ha := (hread (toJson a) a hne).mpr rfl
      unfold readIfSome
      split
      · next heq => cases heq
      · next heq => exact absurd (Option.some.inj heq) hne
      · next heq =>
        obtain rfl := Option.some.inj heq
        rw [ha]
        rfl

theorem stringOf_eq_some {value : Json} {text : String} :
    stringOf value = some text ↔ value = .string text := by
  cases value <;> simp [stringOf]

theorem boolOf_eq_some {value : Json} {b : Bool} : boolOf value = some b ↔ value = .bool b := by
  cases value <;> simp [boolOf]

theorem deviceOf_eq_some {value : Json} {device : Option String} (hne : value ≠ .null) :
    deviceOf value = some device ↔ value = deviceJson device := by
  cases value with
  | null => exact absurd rfl hne
  | string text => cases device <;> simp [deviceOf, readIfSome, stringOf, deviceJson]
  | bool b => cases device <;> simp [deviceOf, readIfSome, stringOf, deviceJson]
  | number literal => cases device <;> simp [deviceOf, readIfSome, stringOf, deviceJson]
  | array items => cases device <;> simp [deviceOf, readIfSome, stringOf, deviceJson]
  | object fields => cases device <;> simp [deviceOf, readIfSome, stringOf, deviceJson]

/-- A missing field keeps its value. -/
theorem Asked.absent (h : Asked toJson none asked) (before : α) : asked.getD before = before := by
  rcases h with ⟨-, rfl⟩ | ⟨a, hgiven, -⟩
  · rfl
  · cases hgiven

/-- So does a field that is `null`. -/
theorem Asked.null (h : Asked toJson (some .null) asked) (before : α) :
    asked.getD before = before := by
  rcases h with ⟨-, rfl⟩ | ⟨a, hgiven, hne, -⟩
  · rfl
  · exact absurd (Option.some.inj hgiven).symm hne

/-- A field has the value that is given, if a `null` changes nothing. -/
theorem Asked.present {value : Json} (h : Asked toJson (some value) asked) {before : α}
    (hnull : value = .null → value = toJson before) : value = toJson (asked.getD before) := by
  rcases h with ⟨hgiven, rfl⟩ | ⟨a, hgiven, -, rfl⟩
  · refine hnull ?_
    rcases hgiven with hgiven | hgiven
    · cases hgiven
    · exact Option.some.inj hgiven
  · exact Option.some.inj hgiven

end Asked

/-- The patch in an object. -/
structure Decoded (fields : List (String × Json)) (patch : PreferencesPatch) : Prop where
  known : ∀ field ∈ fields, field.1 ∈ ["resolution", "keyboard", "mouse", "gameMode"]
  resolution : ∃ given, optionalField "resolution" fields = some given ∧
    Asked Json.string given patch.resolution
  keyboard : ∃ given, optionalField "keyboard" fields = some given ∧
    Asked deviceJson given patch.keyboard
  mouse : ∃ given, optionalField "mouse" fields = some given ∧ Asked deviceJson given patch.mouse
  gameMode : ∃ given, optionalField "gameMode" fields = some given ∧
    Asked Json.bool given patch.gameMode

theorem patchOf_eq_some {fields : List (String × Json)} {patch : PreferencesPatch} :
    patchOf (.object fields) = some patch ↔ Decoded fields patch := by
  have hstring (given : Option Json) (asked : Option String) :
      readIfSome stringOf given = some asked ↔ Asked Json.string given asked :=
    readIfSome_eq_some fun _ _ _ => stringOf_eq_some
  have hdevice (given : Option Json) (asked : Option (Option String)) :
      readIfSome deviceOf given = some asked ↔ Asked deviceJson given asked :=
    readIfSome_eq_some fun _ _ hne => deviceOf_eq_some hne
  have hbool (given : Option Json) (asked : Option Bool) :
      readIfSome boolOf given = some asked ↔ Asked Json.bool given asked :=
    readIfSome_eq_some fun _ _ _ => boolOf_eq_some
  by_cases hknown : ∃ field ∈ fields, field.1 ∉ ["resolution", "keyboard", "mouse", "gameMode"]
  · have hnone : patchOf (.object fields) = none := by simp only [patchOf, if_pos hknown]
    rw [hnone]
    obtain ⟨field, hmem, hunknown⟩ := hknown
    refine ⟨fun h => ?_, fun h => absurd (h.known field hmem) hunknown⟩
    cases h
  · have hall : ∀ field ∈ fields, field.1 ∈ ["resolution", "keyboard", "mouse", "gameMode"] := by
      intro field hmem
      by_contra hunknown
      exact hknown ⟨field, hmem, hunknown⟩
    simp only [patchOf, if_neg hknown, patchFrom, Option.bind_eq_bind, Option.bind_eq_some_iff,
      Option.pure_def, Option.some.injEq, hstring, hdevice, hbool]
    constructor
    · rintro ⟨r, hr, k, hk, m, hm, g, hg, resolution, hresolution, keyboard, hkeyboard, mouse, hmouse,
        gameMode, hgameMode, rfl⟩
      exact ⟨hall, ⟨r, hr, hresolution⟩, ⟨k, hk, hkeyboard⟩, ⟨m, hm, hmouse⟩, ⟨g, hg, hgameMode⟩⟩
    · rintro ⟨-, ⟨r, hr, hresolution⟩, ⟨k, hk, hkeyboard⟩, ⟨m, hm, hmouse⟩, ⟨g, hg, hgameMode⟩⟩
      exact ⟨r, hr, k, hk, m, hm, g, hg, _, hresolution, _, hkeyboard, _, hmouse, _, hgameMode, rfl⟩

theorem validate_eq_ok {preferences : UserPreferences} : validate preferences = .ok () ↔
    preferences.schemaVersion = PREFERENCES_SCHEMA_VERSION ∧
      preferences.resolution ∈ ["1280x720", "1600x900", "1920x1080"] ∧
      validateDevicePath "keyboard" preferences.keyboard = .ok () ∧
      validateDevicePath "mouse" preferences.mouse = .ok () := by
  unfold validate
  by_cases hversion : preferences.schemaVersion = PREFERENCES_SCHEMA_VERSION
  · by_cases hresolution : preferences.resolution ∈ ["1280x720", "1600x900", "1920x1080"]
    · rw [if_neg (not_not.mpr hversion), if_neg (not_not.mpr hresolution)]
      cases validateDevicePath "keyboard" preferences.keyboard with
      | error error => simp [bind, Except.bind]
      | ok u => simp [bind, Except.bind, hversion, hresolution]
    · rw [if_neg (not_not.mpr hversion), if_pos hresolution]
      simp [hresolution]
  · rw [if_pos hversion]
    simp [hversion]

theorem validate_of_loaded {directory : String} {read : Except FileError (List UInt8)}
    {preferences : UserPreferences} (h : loaded directory read = .ok preferences) :
    validate preferences = .ok () := by
  unfold loaded at h
  split at h
  · obtain rfl := Except.ok.inj h
    rfl
  · cases h
  · split at h
    · cases h
    · split at h
      · cases h
      · next hvalid =>
        obtain rfl := Except.ok.inj h
        exact hvalid

section Merging

variable {fields : List (String × Json)} {patch : PreferencesPatch} {before : UserPreferences}

/-- What becomes of one field. -/
theorem Decoded.field {α : Type} {name : String} {toJson : α → Json} {asked : Option α}
    (h : ∃ given, optionalField name fields = some given ∧ Asked toJson given asked) (before : α) :
    (Absent name fields → asked.getD before = before) ∧
    ∀ field ∈ fields, field.1 = name → (field.2 = .null → field.2 = toJson before) →
      field.2 = toJson (asked.getD before) := by
  obtain ⟨given, hgiven, hasked⟩ := h
  cases given with
  | none =>
    refine ⟨fun _ => hasked.absent before, fun field hmem hname _ => ?_⟩
    exact absurd hname (optionalField_eq_none hgiven field hmem)
  | some value =>
    obtain ⟨hmem, hsame⟩ := optionalField_eq_some hgiven
    refine ⟨fun habsent => absurd rfl (habsent _ hmem), fun field hfield hname hnull => ?_⟩
    rw [hsame field hfield hname] at hnull ⊢
    exact hasked.present hnull

/-- A field that is not a `null` is set. -/
theorem Decoded.sets (h : Decoded fields patch) {field : String × Json} (hmem : field ∈ fields)
    (hnull : field.2 = .null → Sets before field) : Sets (patch.apply before) field := by
  have hknown := h.known field hmem
  simp only [List.mem_cons, List.not_mem_nil, or_false] at hknown
  rcases hknown with hname | hname | hname | hname
  · obtain ⟨-, hset⟩ := Decoded.field h.resolution before.resolution
    refine .inl ⟨hname, hset field hmem hname fun hvalue => ?_⟩
    simpa [Sets, hname] using hnull hvalue
  · obtain ⟨-, hset⟩ := Decoded.field h.keyboard before.keyboard
    refine .inr (.inl ⟨hname, hset field hmem hname fun hvalue => ?_⟩)
    simpa [Sets, hname] using hnull hvalue
  · obtain ⟨-, hset⟩ := Decoded.field h.mouse before.mouse
    refine .inr (.inr (.inl ⟨hname, hset field hmem hname fun hvalue => ?_⟩))
    simpa [Sets, hname] using hnull hvalue
  · obtain ⟨-, hset⟩ := Decoded.field h.gameMode before.gameMode
    refine .inr (.inr (.inr ⟨hname, hset field hmem hname fun hvalue => ?_⟩))
    simpa [Sets, hname] using hnull hvalue

/-- A patch merges what its object asks for, if no `null` asks for a change. -/
theorem Decoded.merges (h : Decoded fields patch) (hclear : Clear fields before) :
    Merges fields before (patch.apply before) :=
  ⟨fun field hmem => h.sets hmem (hclear field hmem), (Decoded.field h.resolution _).1,
    (Decoded.field h.keyboard _).1, (Decoded.field h.mouse _).1, (Decoded.field h.gameMode _).1, rfl⟩

/-- A field that is `null` keeps what it should change. -/
theorem Decoded.clear (h : Decoded fields patch)
    (hmerges : Merges fields before (patch.apply before)) : Clear fields before := by
  intro field hmem hvalue
  have hkept {α : Type} {name : String} {toJson : α → Json} {asked : Option α}
      (h : ∃ given, optionalField name fields = some given ∧ Asked toJson given asked)
      (hname : field.1 = name) (before : α) : asked.getD before = before := by
    obtain ⟨given, hgiven, hasked⟩ := h
    cases given with
    | none => exact absurd hname (optionalField_eq_none hgiven field hmem)
    | some value =>
      have hnull := (optionalField_eq_some hgiven).2 field hmem hname
      rw [← hnull, hvalue] at hasked
      exact hasked.null before
  rcases hmerges.present field hmem with ⟨hname, h'⟩ | ⟨hname, h'⟩ | ⟨hname, h'⟩ | ⟨hname, h'⟩
  · rw [PreferencesPatch.apply, hkept h.resolution hname] at h'
    exact .inl ⟨hname, h'⟩
  · rw [PreferencesPatch.apply, hkept h.keyboard hname] at h'
    exact .inr (.inl ⟨hname, h'⟩)
  · rw [PreferencesPatch.apply, hkept h.mouse hname] at h'
    exact .inr (.inr (.inl ⟨hname, h'⟩))
  · rw [PreferencesPatch.apply, hkept h.gameMode hname] at h'
    exact .inr (.inr (.inr ⟨hname, h'⟩))

/-- What valid preferences have may be given. -/
theorem acceptable_of_sets {field : String × Json} (hvalid : validate before = .ok ())
    (h : Sets before field) : Acceptable field := by
  obtain ⟨-, hresolution, hkeyboard, hmouse⟩ := validate_eq_ok.mp hvalid
  rcases h with ⟨hname, hvalue⟩ | ⟨hname, hvalue⟩ | ⟨hname, hvalue⟩ | ⟨hname, hvalue⟩
  · exact .inl ⟨hname, _, hresolution, hvalue⟩
  · exact .inr (.inl ⟨hname, _, hkeyboard, hvalue⟩)
  · exact .inr (.inr (.inl ⟨hname, _, hmouse, hvalue⟩))
  · exact .inr (.inr (.inr ⟨hname, _, hvalue⟩))

theorem Decoded.nodup (h : Decoded fields patch) : (fields.map Prod.fst).Nodup := by
  have hlookup : ∀ name, (∃ given, optionalField name fields = some given) →
      (fields.map Prod.fst).count name ≤ 1 := by
    rintro name ⟨given, hgiven⟩
    have hcount : (fields.map Prod.fst).count name = (fields.filter (·.1 = name)).length := by
      rw [List.count, List.countP_map, List.countP_eq_length_filter]
      congr 1
    rw [hcount]
    unfold optionalField at hgiven
    split at hgiven
    · next hnil => simp [hnil]
    · next hone => simp [hone]
    · cases hgiven
  rw [List.nodup_iff_count_le_one]
  intro name
  by_cases hmem : name ∈ fields.map Prod.fst
  · obtain ⟨field, hfield, rfl⟩ := List.mem_map.mp hmem
    have hknown := h.known field hfield
    simp only [List.mem_cons, List.not_mem_nil, or_false] at hknown
    refine hlookup _ ?_
    rcases hknown with hname | hname | hname | hname
    · obtain ⟨given, hgiven, -⟩ := h.resolution
      exact ⟨given, hname ▸ hgiven⟩
    · obtain ⟨given, hgiven, -⟩ := h.keyboard
      exact ⟨given, hname ▸ hgiven⟩
    · obtain ⟨given, hgiven, -⟩ := h.mouse
      exact ⟨given, hname ▸ hgiven⟩
    · obtain ⟨given, hgiven, -⟩ := h.gameMode
      exact ⟨given, hname ▸ hgiven⟩
  · rw [List.count_eq_zero_of_not_mem hmem]
    exact Nat.zero_le 1

/-- A request that is accepted is not hopeless. -/
theorem Decoded.not_hopeless (h : Decoded fields patch)
    (hvalid : validate (patch.apply before) = .ok ()) : ¬ Hopeless fields := by
  rintro (htwice | ⟨field, hmem, hunknown | ⟨hvalue, hbad⟩⟩)
  · exact htwice h.nodup
  · exact hunknown (h.known field hmem)
  · exact hbad (acceptable_of_sets hvalid (h.sets hmem fun hnull => absurd hnull hvalue))

/-- A field that may have its value asks for it, or for nothing. -/
theorem exists_asked {α : Type} {name : String} {toJson : α → Json} {P : α → Prop}
    (hnodup : (fields.map Prod.fst).Nodup)
    (hvalue : ∀ value, (name, value) ∈ fields → value ≠ .null → ∃ a, P a ∧ value = toJson a)
    {before : α} (hbefore : P before) : ∃ asked : Option α,
      (∃ given, optionalField name fields = some given ∧ Asked toJson given asked) ∧
        P (asked.getD before) := by
  obtain ⟨given, hgiven⟩ : ∃ given, optionalField name fields = some given :=
    optionalField_of_nodup hnodup
  cases given with
  | none => exact ⟨none, ⟨none, hgiven, .inl ⟨.inl rfl, rfl⟩⟩, hbefore⟩
  | some value =>
    by_cases hnull : value = .null
    · exact ⟨none, ⟨some value, hgiven, .inl ⟨.inr (by rw [hnull]), rfl⟩⟩, hbefore⟩
    · obtain ⟨a, ha, rfl⟩ := hvalue value (optionalField_eq_some hgiven).1 hnull
      exact ⟨some a, ⟨_, hgiven, .inr ⟨a, rfl, hnull, rfl⟩⟩, ha⟩

/-- A request that is not hopeless has a patch, which leaves valid preferences valid. -/
theorem exists_patch (hnot : ¬ Hopeless fields) (hbefore : validate before = .ok ()) :
    ∃ patch, Decoded fields patch ∧ validate (patch.apply before) = .ok () := by
  obtain ⟨hversion, hresolution, hkeyboard, hmouse⟩ := validate_eq_ok.mp hbefore
  have hnodup : (fields.map Prod.fst).Nodup := by
    by_contra htwice
    exact hnot (.inl htwice)
  have hacceptable : ∀ field ∈ fields, field.2 ≠ .null → Acceptable field := by
    intro field hmem hvalue
    by_contra hbad
    exact hnot (.inr ⟨field, hmem, .inr ⟨hvalue, hbad⟩⟩)
  obtain ⟨resolution, hr, hresolution'⟩ := @exists_asked fields String "resolution" Json.string
    (· ∈ ["1280x720", "1600x900", "1920x1080"]) hnodup (fun value hmem hne => by
      simpa [Acceptable] using hacceptable _ hmem hne) before.resolution hresolution
  obtain ⟨keyboard, hk, hkeyboard'⟩ := @exists_asked fields (Option String) "keyboard" deviceJson
    (validateDevicePath "keyboard" · = .ok ()) hnodup (fun value hmem hne => by
      simpa [Acceptable] using hacceptable _ hmem hne) before.keyboard hkeyboard
  obtain ⟨mouse, hm, hmouse'⟩ := @exists_asked fields (Option String) "mouse" deviceJson
    (validateDevicePath "mouse" · = .ok ()) hnodup (fun value hmem hne => by
      simpa [Acceptable] using hacceptable _ hmem hne) before.mouse hmouse
  obtain ⟨gameMode, hg, -⟩ := @exists_asked fields Bool "gameMode" Json.bool
    (fun _ => True) hnodup (fun value hmem hne => by
      simpa [Acceptable] using hacceptable _ hmem hne) before.gameMode trivial
  refine ⟨⟨resolution, keyboard, mouse, gameMode⟩, ⟨fun field hmem => ?_, hr, hk, hm, hg⟩,
    validate_eq_ok.mpr ⟨hversion, hresolution', hkeyboard', hmouse'⟩⟩
  by_contra hunknown
  exact hnot (.inr ⟨field, hmem, .inl hunknown⟩)

end Merging

/-! ### A request by itself -/

section Request

variable {faults : FileOp PreferencesName → Option Fault} {directory : String} {pid process : ℕ}
  {patch : PreferencesPatch} {s : PreferencesFiles} {preferences before : UserPreferences}

/-- The name of the next temporary file of the process. -/
def PreferencesFiles.nextTemporary (s : PreferencesFiles) (process : ℕ) : PreferencesName :=
  .temporary process (s.sequence process)

theorem replaceWith_succeeds {temporary : PreferencesName}
    (hfree : s.files.entry temporary = none) : ((replaceWith directory temporary preferences).runWith
      (perform (fun _ => none) pid) s).1 = .ok () := by
  unfold replaceWith
  simp only [PreferencesOp.call, Program.runWith_bind, Program.runWith_call, perform, FileOp.perform,
    FileOp.succeed, if_pos hfree]
  have hthere : (((s.files.create pid temporary).store (s.files.fileOf temporary)
      (preferencesText preferences)).entry temporary) ≠ none :=
    Files.entry_prepared s.files pid temporary _
  simp only [if_neg hthere]
  rfl

theorem replaceWith_taken {temporary : PreferencesName} (htaken : s.files.entry temporary ≠ none) :
    ∃ error, (replaceWith directory temporary preferences).runWith (perform faults pid) s =
      (.error error, s) := by
  unfold replaceWith
  obtain ⟨error, hcreate⟩ : ∃ error,
      (FileOp.createNew temporary).perform faults pid s.files = (.error error, s.files) := by
    unfold FileOp.perform
    cases faults (.createNew temporary) with
    | none => exact ⟨.alreadyExists, if_neg htaken⟩
    | some fault => exact ⟨fault.error, rfl⟩
  simp only [PreferencesOp.call, Program.runWith_bind, Program.runWith_call, perform, hcreate]
  exact ⟨_, rfl⟩

theorem saveAtPath_succeeds (hfree : s.files.entry (s.nextTemporary process) = none) :
    ((saveAtPath directory process preferences).runWith (perform (fun _ => none) pid) s).1 =
      .ok () := by
  have hreplaced : ((replaceWith directory (.temporary process (s.sequence process))
      preferences).runWith (perform (fun _ => none) pid) (s.advance process)).1 = .ok () :=
    replaceWith_succeeds hfree
  unfold saveAtPath
  simp only [PreferencesOp.call, Program.runWith_bind, Program.runWith_call, perform]
  rw [hreplaced]
  rfl

/-- A save whose temporary file cannot be created changes no other file. -/
theorem saveAtPath_taken (htaken : s.files.entry (s.nextTemporary process) ≠ none) :
    (∃ error, ((saveAtPath directory process preferences).runWith (perform faults pid) s).1 =
      .error error) ∧
    ((saveAtPath directory process preferences).runWith (perform faults pid) s).2.files.content
      .preferences = s.files.content .preferences := by
  obtain ⟨error, hreplaced⟩ : ∃ error,
      (replaceWith directory (.temporary process (s.sequence process)) preferences).runWith
        (perform faults pid) (s.advance process) = (.error error, s.advance process) :=
    replaceWith_taken htaken
  have hremove (name : PreferencesName) (hne : .preferences ≠ name) (files : Files PreferencesName) :
      (((FileOp.remove name).perform faults pid files).2).content .preferences =
        files.content .preferences := by
    unfold FileOp.perform
    cases faults (.remove name) with
    | some fault => rfl
    | none =>
      by_cases hentry : files.entry name = none
      · simp only [FileOp.succeed, if_pos hentry, Files.content_leave]
      · simp only [FileOp.succeed, if_neg hentry, Files.content_leave, Files.content_remove hne]
  unfold saveAtPath
  simp only [PreferencesOp.call, Program.runWith_bind, Program.runWith_call, perform, hreplaced]
  exact ⟨⟨error, rfl⟩, hremove _ (by simp) s.files⟩

/-- What is done with the lock succeeds if nothing fails. -/
theorem updateLocked_succeeds (hfree : s.files.entry (s.nextTemporary process) = none)
    (hload : loaded directory (found (s.files.content .preferences)) = .ok before)
    (hvalid : validate (patch.apply before) = .ok ()) :
    ((updateLocked directory process patch).runWith (perform (fun _ => none) pid) s).1 =
      .ok (patch.apply before) := by
  have hread : (FileOp.read PreferencesName.preferences).succeed pid s.files =
      (found (s.files.content .preferences), s.files) := by
    simp only [FileOp.succeed]
    cases s.files.content .preferences with
    | none => rfl
    | some bytes => rfl
  have hsaved : ((saveAtPath directory process (patch.apply before)).runWith
      (perform (fun _ => none) pid) s).1 = .ok () := saveAtPath_succeeds hfree
  unfold updateLocked loadFromPath
  simp only [PreferencesOp.call, Program.runWith_bind, Program.runWith_call, perform, FileOp.perform,
    hread, hload, hvalid, Program.pure_eq_done, Program.runWith_done, hsaved]

/-- What is done with the lock changes nothing if the temporary file cannot be created. -/
theorem updateLocked_taken (htaken : s.files.entry (s.nextTemporary process) ≠ none) :
    (∃ error, ((updateLocked directory process patch).runWith (perform faults pid) s).1 =
      .error error) ∧
    ((updateLocked directory process patch).runWith (perform faults pid) s).2.files.content
      .preferences = s.files.content .preferences := by
  have hread : ((FileOp.read PreferencesName.preferences).perform faults pid s.files).2 = s.files := by
    unfold FileOp.perform
    cases faults (.read .preferences) with
    | some fault => rfl
    | none =>
      simp only [FileOp.succeed]
      cases s.files.content .preferences with
      | none => rfl
      | some bytes => rfl
  unfold updateLocked loadFromPath
  simp only [PreferencesOp.call, Program.runWith_bind, Program.runWith_call, perform, hread]
  cases hload : loaded directory ((FileOp.read .preferences).perform faults pid s.files).1 with
  | error error =>
    simp only [Program.pure_eq_done, Program.runWith_done]
    exact ⟨⟨error, rfl⟩, trivial⟩
  | ok before =>
    simp only [Program.pure_eq_done, Program.runWith_done]
    cases hvalid : validate (patch.apply before) with
    | error error => exact ⟨⟨error, rfl⟩, rfl⟩
    | ok u =>
      obtain ⟨⟨error, hsaved⟩, hcontent⟩ : (∃ error, ((saveAtPath directory process
          (patch.apply before)).runWith (perform faults pid) s).1 = .error error) ∧
          ((saveAtPath directory process (patch.apply before)).runWith (perform faults pid)
            s).2.files.content .preferences = s.files.content .preferences := saveAtPath_taken htaken
      simp only [Program.runWith_bind, hsaved]
      exact ⟨⟨error, rfl⟩, hcontent⟩

/-- The files once the lock is held. -/
def locked (s : PreferencesFiles) : PreferencesFiles :=
  { s with files := (s.files.touch .lock).setHolder .lock (some 0) }

theorem locked_same (hopened : s.Opened) (process : ℕ) :
    (locked s).files.content .preferences = s.files.content .preferences ∧
    (locked s).files.entry ((locked s).nextTemporary process) =
      s.files.entry (s.nextTemporary process) := by
  have hcontent : (s.files.touch .lock).content .preferences = s.files.content .preferences :=
    Files.content_touch hopened.bounded (by decide)
  have hentry : (s.files.touch .lock).entry (.temporary process (s.sequence process)) =
      s.files.entry (.temporary process (s.sequence process)) :=
    by simp [Files.touch]
  exact ⟨hcontent, hentry⟩

/-- A call succeeds if nothing fails. -/
theorem outcome_succeeds (hopened : s.Opened)
    (hfree : s.files.entry (s.nextTemporary process) = none)
    (hload : loaded directory (found (s.files.content .preferences)) = .ok before)
    (hvalid : validate (patch.apply before) = .ok ()) :
    (outcome (fun _ => none) directory (.updates process patch) s).1 = .ok (patch.apply before) := by
  obtain ⟨hcontent, hentry⟩ := locked_same hopened process
  have hupdated : ((updateLocked directory process patch).runWith (perform (fun _ => none) 0)
      (locked s)).1 = .ok (patch.apply before) :=
    updateLocked_succeeds (hentry.trans hfree) (by rw [hcontent, hload]) hvalid
  have hunlocked : (s.files.touch .lock).holder .lock = none := hopened.unlocked
  unfold outcome PreferencesTask.text updateAtPath
  simp only [PreferencesOp.call, Program.runWith_bind, Program.runWith_call, perform, FileOp.perform,
    FileOp.succeed, Program.pure_eq_done, if_pos hunlocked]
  exact hupdated

/-- A call changes nothing if its temporary file cannot be created. -/
theorem outcome_taken (hopened : s.Opened)
    (htaken : s.files.entry (s.nextTemporary process) ≠ none) :
    (∃ error, (outcome faults directory (.updates process patch) s).1 = .error error) ∧
    (outcome faults directory (.updates process patch) s).2.files.content .preferences =
      s.files.content .preferences := by
  obtain ⟨hcontent, hentry⟩ := locked_same hopened process
  have htouched : (s.files.touch .lock).content .preferences = s.files.content .preferences :=
    Files.content_touch hopened.bounded (by decide)
  obtain ⟨⟨error, hupdated⟩, hkept⟩ : (∃ error, ((updateLocked directory process patch).runWith
      (perform faults 0) (locked s)).1 = .error error) ∧
      ((updateLocked directory process patch).runWith (perform faults 0) (locked s)).2.files.content
        .preferences = (locked s).files.content .preferences :=
    updateLocked_taken (by rwa [hentry])
  have hunlocked : (s.files.touch .lock).holder .lock = none := hopened.unlocked
  unfold outcome PreferencesTask.text updateAtPath
  simp only [PreferencesOp.call, Program.runWith_bind, Program.runWith_call, perform, FileOp.perform,
    Program.pure_eq_done]
  cases hmake : faults .createDirectory with
  | some fault => exact ⟨⟨_, rfl⟩, rfl⟩
  | none =>
    simp only [FileOp.succeed, Program.runWith_bind, Program.runWith_call, perform, FileOp.perform]
    cases htouch : faults (.touch .lock) with
    | some fault => exact ⟨⟨_, rfl⟩, rfl⟩
    | none =>
      simp only [Program.runWith_bind, Program.runWith_call, perform, FileOp.perform]
      cases hlock : faults (.lock .lock) with
      | some fault => exact ⟨⟨_, rfl⟩, htouched⟩
      | none =>
        simp only [FileOp.succeed, if_pos hunlocked, Program.runWith_bind, Program.runWith_call,
          perform, FileOp.perform]
        have hleft : ((updateLocked directory process patch).runWith (perform faults 0)
            (locked s)).2.files.content .preferences = s.files.content .preferences :=
          hkept.trans hcontent
        refine ⟨⟨error, hupdated⟩, ?_⟩
        cases faults (.unlock .lock) with
        | some fault => exact hleft
        | none => exact hleft

end Request

/-! ### Requests are honoured -/

section Honoured

variable {directory : String} {process : ℕ} {body : List UInt8} {fields : List (String × Json)}
  {s : PreferencesFiles} {before : UserPreferences}

/-- The request of an object that has no patch. -/
theorem requestOutcome_none {faults : FileOp PreferencesName → Option Fault}
    (hpatch : (jsonOf body).bind patchOf = none) :
    requestOutcome faults directory process body s =
      (.error "preferences request must be valid JSON", s) := by
  unfold requestOutcome updateDefault
  rw [hpatch]
  rfl

/-- The request of an object is the call with its patch. -/
theorem requestOutcome_some {faults : FileOp PreferencesName → Option Fault}
    {patch : PreferencesPatch} (hpatch : (jsonOf body).bind patchOf = some patch) :
    requestOutcome faults directory process body s =
      outcome faults directory (.updates process patch) s := by
  unfold requestOutcome updateDefault
  rw [hpatch]
  rfl

/-- A request that is refused and changes nothing is honoured. -/
theorem honoured_of_error {outcome : Except String UserPreferences × PreferencesFiles}
    {error : String} (herror : outcome.1 = .error error)
    (hkept : outcome.2.files.content .preferences = s.files.content .preferences) :
    Honoured directory fields before s outcome := by
  refine ⟨fun after hok => ?_, fun _ => ⟨⟨error, herror⟩, hkept⟩⟩
  rw [herror] at hok
  cases hok

/-- **A request is honoured, whatever fails meanwhile, if and only if** it is refused anyway, or no
`null` asks for a change, or no request of the process can create its temporary file. -/
theorem patch_honoured_iff (hopened : s.Opened)
    (hstored : loaded directory (found (s.files.content .preferences)) = .ok before)
    (hbody : jsonOf body = some (.object fields)) :
    (∀ faults, Honoured directory fields before s
      (requestOutcome faults directory process body s)) ↔
      Hopeless fields ∨ Clear fields before ∨ s.files.entry (s.nextTemporary process) ≠ none := by
  have hvalid := validate_of_loaded hstored
  constructor
  · intro h
    by_contra hnot
    rw [not_or, not_or, not_not] at hnot
    obtain ⟨hhopeless, hclear, hfree⟩ := hnot
    obtain ⟨patch, hdecoded, hafter⟩ := exists_patch hhopeless hvalid
    have hpatch : (jsonOf body).bind patchOf = some patch := by
      rw [hbody]
      exact patchOf_eq_some.mpr hdecoded
    have haccepted := (h fun _ => none).accepted (patch.apply before)
    rw [requestOutcome_some hpatch] at haccepted
    obtain ⟨hmerges, -⟩ := haccepted (outcome_succeeds hopened hfree hstored hafter)
    exact hclear (hdecoded.clear hmerges)
  · intro hcondition faults
    cases hpatch : (jsonOf body).bind patchOf with
    | none =>
      rw [requestOutcome_none hpatch]
      exact honoured_of_error rfl rfl
    | some patch =>
      have hdecoded : Decoded fields patch := by
        rw [hbody] at hpatch
        exact patchOf_eq_some.mp hpatch
      rw [requestOutcome_some hpatch]
      rcases outcome_updates hopened with ⟨hkept, error, herror⟩ |
        ⟨preferences, after, hload, hpatched, hcontent, hreturned⟩
      · exact honoured_of_error herror hkept
      · obtain rfl : preferences = before := Except.ok.inj (hload.symm.trans hstored)
        obtain ⟨rfl, hafter⟩ := patched_eq_ok.mp hpatched
        rcases hcondition with hhopeless | hclear | htaken
        · exact absurd hhopeless (hdecoded.not_hopeless hafter)
        · refine ⟨fun updated hok => ?_, fun hbad => ?_⟩
          · rw [hreturned updated hok, hcontent]
            exact ⟨hdecoded.merges hclear, loaded_text hafter⟩
          · obtain ⟨field, hmem, hbad⟩ := hbad
            exact absurd (acceptable_of_sets hafter (hdecoded.sets hmem (hclear field hmem))) hbad
        · obtain ⟨⟨error, herror⟩, hkept⟩ := outcome_taken hopened htaken
          exact honoured_of_error herror hkept

end Honoured

/-! ### A null that should clear the keyboard -/

def keyboardBefore : UserPreferences := { (default : UserPreferences) with
  keyboard := some "/dev/input/event3" }

/-- A directory with preferences that have a keyboard. -/
def keyboardDirectory : PreferencesFiles :=
  ⟨⟨fun name => if name = .preferences then some 0 else none, fun _ => preferencesText keyboardBefore,
    1, fun _ => none, fun _ => ∅⟩, fun _ => 0⟩

theorem keyboardDirectory_opened : keyboardDirectory.Opened := by
  refine ⟨fun name file hfile => ?_, rfl⟩
  by_cases hname : name = .preferences
  · obtain rfl : 0 = file := by simpa [keyboardDirectory, hname] using hfile
    exact Nat.one_pos
  · simp [keyboardDirectory, hname] at hfile

theorem keyboardDirectory_stored : loaded "/wroid"
    (found (keyboardDirectory.files.content .preferences)) = .ok keyboardBefore :=
  loaded_text (by decide +kernel)

theorem jsonOf_object {name : String} {text : List Char} {value : Json}
    (hread : ReadsAlone 1 text value) :
    jsonOf (utf8Bytes (jsonObject [(name, text)])) = some (.object [(name, value)]) := by
  have hfields : FieldsRead 1 [(name, text)] [(name, value)] := .cons ⟨rfl, hread.reads⟩ .nil
  have hparse := parseJson_eq (Reads.object hfields (by simp) Nat.one_pos) (by decide)
  rw [jsonOf, fromUTF8?_utf8Bytes, Option.bind_some, String.toList_ofList, hparse]

/-- A request that switches the game mode off. -/
def gameModeRequest : List UInt8 := utf8Bytes (jsonObject [("gameMode", jsonBool false)])

theorem patch_honoured_iff_gameMode : Clear [("gameMode", .bool false)] keyboardBefore ∧
    ∀ faults, Honoured "/wroid" [("gameMode", .bool false)] keyboardBefore keyboardDirectory
      (requestOutcome faults "/wroid" 7 gameModeRequest keyboardDirectory) := by
  have hclear : Clear [("gameMode", .bool false)] keyboardBefore := by
    intro field hmem hnull
    rw [List.mem_singleton.mp hmem] at hnull
    cases hnull
  exact ⟨hclear, (patch_honoured_iff keyboardDirectory_opened keyboardDirectory_stored
    (jsonOf_object (.bool false))).mpr (.inr (.inl hclear))⟩

/-- A request that should clear the keyboard. -/
def keyboardRequest : List UInt8 := utf8Bytes (jsonObject [("keyboard", jsonNull)])

/-- A `null` for the keyboard is accepted, and the keyboard stays. -/
theorem null_keeps_keyboard : keyboardDirectory.Opened ∧
    loaded "/wroid" (found (keyboardDirectory.files.content .preferences)) = .ok keyboardBefore ∧
    jsonOf keyboardRequest = some (.object [("keyboard", .null)]) ∧
    (requestOutcome (fun _ => none) "/wroid" 7 keyboardRequest keyboardDirectory).1 =
      .ok keyboardBefore ∧
    ¬ Honoured "/wroid" [("keyboard", .null)] keyboardBefore keyboardDirectory
      (requestOutcome (fun _ => none) "/wroid" 7 keyboardRequest keyboardDirectory) := by
  have hbody : jsonOf keyboardRequest = some (.object [("keyboard", .null)]) := jsonOf_object .null
  have hpatch : (jsonOf keyboardRequest).bind patchOf = some ⟨none, none, none, none⟩ := by
    rw [hbody]
    rfl
  have hvalid : validate keyboardBefore = .ok () := by decide +kernel
  have hresult : (requestOutcome (fun _ => none) "/wroid" 7 keyboardRequest keyboardDirectory).1 =
      .ok keyboardBefore := by
    rw [requestOutcome_some hpatch]
    exact outcome_succeeds keyboardDirectory_opened rfl keyboardDirectory_stored hvalid
  refine ⟨keyboardDirectory_opened, keyboardDirectory_stored, hbody, hresult, fun h => ?_⟩
  obtain ⟨hmerges, -⟩ := h.accepted keyboardBefore hresult
  have hset := hmerges.present _ List.mem_cons_self
  simp [Sets, keyboardBefore, deviceJson] at hset

end Wroid.Preferences
