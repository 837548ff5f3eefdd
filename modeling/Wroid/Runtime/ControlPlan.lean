import Wroid.Runtime.HostKeys
import Wroid.Runtime.Joystick
import Wroid.Runtime.MouseAim

/-!
# From a profile to a control plan

`RuntimeControlPlan::from_profile_v2` resolves layers and key names, allocates contact
identifiers and turns normalised geometry into pixels.  It can stop with an error or, where
the source has an `expect`, an index or checked arithmetic, with a panic; the two are told
apart.

## Main definitions

* `RuntimeControlPlan`, `RuntimeControlBinding` — the plan a session runs.
* `RuntimeSiblingSuppression` — for an unmodified binding, the modifiers that mute it.
* `PlanStop` — the ways in which building a plan can stop.
* `fromProfileV2` — building the plan.

## Main results

* `precomputeSiblingSuppression_spec` — **the table mutes an input exactly when a binding of
  the same layer has it with a held modifier**, and its four entries are always enough.
* `materializeAction_ok` — what an action makes, if it makes anything.
* `fromProfileV2_realizes` — every plan has the bindings of its profile, in order.
-/

namespace Wroid

open Lib

/-- A control layer; layers are numbered from one in the order of the profile. -/
abbrev LayerId := ℕ

/-- The base layer. -/
def LayerId.BASE : LayerId := 0

inductive LayerMode
  | hold
  | toggle
  deriving DecidableEq, Repr

structure RuntimeLayer where
  name : String
  activationKey : HostKeyName
  mode : LayerMode
  id : LayerId
  deriving DecidableEq, Repr

/-- The modifiers that mute one input. -/
structure ModifierSibling where
  input : RuntimePhysicalInput
  modifiers : ModifierMask
  deriving DecidableEq

/-- The entries in use; the source has an array of four. -/
structure RuntimeSiblingSuppression where
  entries : List ModifierSibling
  deriving DecidableEq

inductive RuntimeControlAction
  | tap (point : Point)
  | hold (point : Point)
  | virtualJoystick (joystick : VirtualJoystick) (mode : JoystickMode)
      (reaffirmInterval : Option ℕ)
  | mouseAim (aim : MouseAim) (settings : MouseAimSettings)

structure RuntimeControlBinding where
  name : String
  input : InputV2
  action : RuntimeControlAction
  layer : LayerId
  modifier : Option HostKeyName
  siblingSuppression : RuntimeSiblingSuppression

/-- The controls of a session. -/
structure RuntimeControlPlan where
  profileName : String
  packageName : String
  resolution : Resolution
  layers : List RuntimeLayer
  modifierKeys : ModifierMask
  controls : List RuntimeControlBinding

inductive RuntimeControlPlanError
  | invalidProfile (errors : List String)
  | unknownLayer (binding layer : String)
  | unsupportedAction (binding kind : String)
  | invalidVirtualJoystick (binding : String) (source : VirtualJoystickConfigError)
  | invalidMouseAim (binding : String) (source : MouseAimConfigError)
  | invalidMouseAimSensitivity (binding : String) (sensitivity : ℚ)

/-- How building a plan stops when it does not succeed. -/
inductive PlanStop
  | error (error : RuntimeControlPlanError)
  | panic (message : String)

/-! ### Sibling suppression -/

namespace RuntimeSiblingSuppression

def new : RuntimeSiblingSuppression := ⟨[]⟩

/-- A fifth input would be written past the end of the array. -/
def add (s : RuntimeSiblingSuppression) (input : RuntimePhysicalInput) (modifier : HostKeyName) :
    Except PlanStop RuntimeSiblingSuppression :=
  match s.entries.findIdx? fun entry => entry.input == input with
  | some i =>
    .ok ⟨s.entries.modify i fun entry => { entry with modifiers := entry.modifiers.insert modifier }⟩
  | none =>
    if s.entries.length < 4 then .ok ⟨s.entries ++ [⟨input, .fromKey modifier⟩]⟩
    else .error (.panic "index out of bounds")

def isSuppressed (s : RuntimeSiblingSuppression) (input : RuntimePhysicalInput)
    (held : ModifierMask) : Bool :=
  s.entries.any fun entry => entry.input == input && entry.modifiers.intersects held

end RuntimeSiblingSuppression

def RuntimeControlBinding.isSuppressed (control : RuntimeControlBinding)
    (input : RuntimePhysicalInput) (held : ModifierMask) : Bool :=
  control.modifier.isNone && control.siblingSuppression.isSuppressed input held

/-- What one sibling adds to the table of the input `input`. -/
def addSibling (layer : LayerId) (input : RuntimePhysicalInput) (s : RuntimeSiblingSuppression)
    (sibling : BindingV2 × LayerId) : Except PlanStop RuntimeSiblingSuppression :=
  if sibling.2 ≠ layer then .ok s
  else
    match sibling.1.modifier.bind HostKeyName.parse with
    | none => .ok s
    | some modifier =>
      if input ∈ resolvedPhysicalInputs sibling.1.input then s.add input modifier else .ok s

/-- The table of a binding; `siblings` are all bindings of the profile with their layers. -/
def precomputeSiblingSuppression (binding : BindingV2) (layer : LayerId)
    (siblings : List (BindingV2 × LayerId)) : Except PlanStop RuntimeSiblingSuppression :=
  if binding.modifier.isSome then .ok .new
  else
    (resolvedPhysicalInputs binding.input).foldlM
      (fun s input => siblings.foldlM (addSibling layer input) s) .new

/-! ### Materialising actions -/

def allocateContactId (nextContactId : ContactId) : ContactId × ContactId :=
  (nextContactId, saturatingSucc nextContactId)

def materializeMouseSensitivity (value : ℚ) : Option MouseAimSensitivity :=
  if value ≤ 0 then none
  else
    let scaled := roundHalfAway (value * 1000)
    if scaled < 1 ∨ (u32Max : ℤ) < scaled then none
    else (MouseAimSensitivity.new (asUnsigned u32Max scaled) 1000).toOption

/-- A `u32` subtraction. -/
def checkedSub (a b : ℕ) : Except PlanStop ℕ :=
  if b ≤ a then .ok (a - b) else .error (.panic "attempt to subtract with overflow")

/-- A fallible step whose error is one of the plan's. -/
def orStop {ε α : Type} (wrap : ε → RuntimeControlPlanError) : Except ε α → Except PlanStop α
  | .ok a => .ok a
  | .error e => .error (.error (wrap e))

def millis (ms : ℕ) : ℕ := ms * 1000000

/-- The action of a binding, and the next free contact identifier. -/
def materializeAction (binding : BindingV2) (resolution : Resolution) (nextContactId : ContactId) :
    Except PlanStop (RuntimeControlAction × ContactId) :=
  match binding.action with
  | .tap point => .ok (.tap (point.materialize resolution), nextContactId)
  | .hold point => .ok (.hold (point.materialize resolution), nextContactId)
  | .virtualJoystick center radius deadZone mode reaffirmMs => do
    let (contactId, nextContactId) := allocateContactId nextContactId
    let joystick ← orStop (.invalidVirtualJoystick binding.name)
      (VirtualJoystick.fromProfileV2Geometry contactId center radius deadZone resolution)
    return (.virtualJoystick joystick mode (reaffirmMs.map millis), nextContactId)
  | .mouseAim region sensitivity toggleKey recenterThreshold recenterGapMs adsMultiplier
      reaffirmMs => do
    let (contactId, nextContactId) := allocateContactId nextContactId
    let (alternateContactId, nextContactId) := allocateContactId nextContactId
    let left := materializeAxis region.x resolution.width
    let top := materializeAxis region.y resolution.height
    let right := materializeAxis (region.x + region.w) resolution.width
    let bottom := materializeAxis (region.y + region.h) resolution.height
    let width ← checkedSub right left
    let height ← checkedSub bottom top
    let represent := fun value => match materializeMouseSensitivity value with
      | some sensitivity => Except.ok sensitivity
      | none => .error (.error (.invalidMouseAimSensitivity binding.name value))
    let sensitivity ← represent sensitivity
    let aim ← orStop (.invalidMouseAim binding.name)
      (MouseAim.new contactId ⟨left + width / 2, top + height / 2⟩ ⟨left, top, right, bottom⟩
        resolution sensitivity)
    let adsMultiplier ← adsMultiplier.mapM represent
    return (.mouseAim aim
      { alternateContactId := alternateContactId
        toggleKey := toggleKey
        recenterThresholdMilli := asUnsigned u16Max (roundHalfAway (recenterThreshold * 1000))
        recenterGap := millis recenterGapMs
        adsMultiplier := adsMultiplier
        reaffirmInterval := reaffirmMs.map millis }, nextContactId)
  | .macroSteps _ => .error (.error (.unsupportedAction binding.name "macro"))

/-! ### The plan -/

/-- `LayerId::new(index as u16 + 1)`: the index is truncated, the addition checked. -/
def layerIdOfIndex (index : ℕ) : Except PlanStop LayerId :=
  if index % (u16Max + 1) < u16Max then .ok (index % (u16Max + 1) + 1)
  else .error (.panic "attempt to add with overflow")

def resolveBindingLayer (layers : List LayerV2) (binding : BindingV2) : Except PlanStop LayerId :=
  match binding.layer with
  | none => .ok .BASE
  | some layerName =>
    match layers.findIdx? fun layer => layer.name == layerName with
    | some index => layerIdOfIndex index
    | none => .error (.error (.unknownLayer binding.name layerName))

def resolveBindingLayers (profile : ProfileV2) : Except PlanStop (List LayerId) :=
  profile.bindings.mapM (resolveBindingLayer profile.layers)

/-- `Option::expect` -/
def expect {α : Type} (message : String) : Option α → Except PlanStop α
  | some a => .ok a
  | none => .error (.panic message)

def LayerActivation.mode : LayerActivation → LayerMode
  | .hold _ => .hold
  | .toggle _ => .toggle

def resolveLayer (entry : LayerV2 × ℕ) : Except PlanStop RuntimeLayer := do
  let activationKey ← expect "validated layer activation key must resolve"
    (HostKeyName.parse entry.1.activation.key)
  let id ← layerIdOfIndex entry.2
  return ⟨entry.1.name, activationKey, entry.1.activation.mode, id⟩

def insertModifier (mask : ModifierMask) (modifier : String) : Except PlanStop ModifierMask := do
  let key ← expect "validated binding modifier must resolve" (HostKeyName.parse modifier)
  return mask.insert key

/-- The loop over the bindings, from the given next contact identifier. -/
def materializeControls (resolution : Resolution) (siblings : List (BindingV2 × LayerId)) :
    List (BindingV2 × LayerId) → ContactId → Except PlanStop (List RuntimeControlBinding)
  | [], _ => .ok []
  | (binding, layer) :: rest, nextContactId => do
    let (action, nextContactId) ← materializeAction binding resolution nextContactId
    let siblingSuppression ← precomputeSiblingSuppression binding layer siblings
    let controls ← materializeControls resolution siblings rest nextContactId
    let control : RuntimeControlBinding :=
      { name := binding.name
        input := binding.input
        action := action
        layer := layer
        modifier := binding.modifier.bind HostKeyName.parse
        siblingSuppression := siblingSuppression }
    return control :: controls

def RuntimeControlPlan.fromProfileV2 (profile : ProfileV2) (resolution : Resolution) :
    Except PlanStop RuntimeControlPlan := do
  let bindingLayers ← resolveBindingLayers profile
  orStop .invalidProfile profile.validate
  let layers ← profile.layers.zipIdx.mapM resolveLayer
  let modifierKeys ← (profile.bindings.filterMap BindingV2.modifier).foldlM insertModifier .EMPTY
  let siblings := profile.bindings.zip bindingLayers
  let controls ← materializeControls resolution siblings siblings 1
  return { profileName := profile.name
           packageName := profile.packageName
           resolution := resolution
           layers := layers
           modifierKeys := modifierKeys
           controls := controls }

/-! ### The suppression table -/

namespace RuntimeSiblingSuppression

/-- A table about the inputs `inputs`, each with one entry at most. -/
structure About (inputs : List RuntimePhysicalInput) (s : RuntimeSiblingSuppression) : Prop where
  nodup : (s.entries.map ModifierSibling.input).Nodup
  mem : ∀ entry ∈ s.entries, entry.input ∈ inputs

theorem about_new (inputs : List RuntimePhysicalInput) : About inputs new := ⟨by simp [new], by simp [new]⟩

/-- The inputs of the table are all different. -/
theorem About.length_le {inputs : List RuntimePhysicalInput} {s : RuntimeSiblingSuppression}
    (hs : s.About inputs) : s.entries.length ≤ inputs.length := by
  have hsub : s.entries.map ModifierSibling.input ⊆ inputs := by
    intro x hx
    obtain ⟨entry, hentry, rfl⟩ := List.mem_map.mp hx
    exact hs.mem entry hentry
  have hlength := (List.subperm_of_subset hs.nodup hsub).length_le
  rwa [List.length_map] at hlength

/-- An input gets its modifier; the table has room for four inputs. -/
theorem add_ok {inputs : List RuntimePhysicalInput} {s : RuntimeSiblingSuppression}
    (hs : s.About inputs) (hlen : inputs.length ≤ 4) {input : RuntimePhysicalInput}
    (hmem : input ∈ inputs) (modifier : HostKeyName) :
    ∃ s', s.add input modifier = .ok s' ∧ s'.About inputs ∧ ∀ input' held,
      s'.isSuppressed input' held =
        (s.isSuppressed input' held || (decide (input = input') && held.contains modifier)) := by
  unfold add
  cases hfind : s.entries.findIdx? fun entry => entry.input == input with
  | some i =>
    obtain ⟨hi, hinput, -⟩ := List.findIdx?_eq_some_iff_getElem.mp hfind
    have hinput : s.entries[i].input = input := by simpa using hinput
    have hmap : (s.entries.modify i fun entry =>
        { entry with modifiers := entry.modifiers.insert modifier }).map ModifierSibling.input =
        s.entries.map ModifierSibling.input := by
      refine List.ext_getElem? fun j => ?_
      simp only [List.getElem?_map, List.getElem?_modify]
      by_cases hij : i = j <;> simp [hij, Function.comp_def]
    refine ⟨_, rfl, ⟨by rw [hmap]; exact hs.nodup, fun entry hentry => ?_⟩, fun input' held => ?_⟩
    · obtain ⟨entry', hentry', heq⟩ := List.mem_map.mp (hmap ▸ List.mem_map_of_mem hentry)
      exact heq ▸ hs.mem entry' hentry'
    · rw [Bool.eq_iff_iff]
      simp only [isSuppressed, Bool.or_eq_true, List.any_eq_true, Bool.and_eq_true, beq_iff_eq,
        decide_eq_true_eq, List.mem_iff_getElem?, List.getElem?_modify]
      constructor
      · rintro ⟨entry, ⟨j, hj⟩, hin, hmeet⟩
        by_cases hij : i = j
        · subst hij
          rw [List.getElem?_eq_getElem hi] at hj
          obtain rfl : _ = entry := by simpa using hj
          simp only [ModifierMask.intersects_insert, Bool.or_eq_true] at hin hmeet
          rcases hmeet with hmeet | hheld
          · exact .inl ⟨_, ⟨i, List.getElem?_eq_getElem hi⟩, hin, hmeet⟩
          · exact .inr ⟨hinput ▸ hin, hheld⟩
        · exact .inl ⟨entry, ⟨j, by simpa [hij] using hj⟩, hin, hmeet⟩
      · rintro (⟨entry, ⟨j, hj⟩, hin, hmeet⟩ | ⟨rfl, hheld⟩)
        · by_cases hij : i = j
          · subst hij
            refine ⟨{ entry with modifiers := entry.modifiers.insert modifier },
              ⟨i, by simp [hj]⟩, hin, by simp [hmeet]⟩
          · exact ⟨entry, ⟨j, by simp [hij, hj]⟩, hin, hmeet⟩
        · exact ⟨{ s.entries[i] with modifiers := s.entries[i].modifiers.insert modifier },
            ⟨i, by simp [hi]⟩, hinput, by simp [hheld]⟩
  | none =>
    have hnew : input ∉ s.entries.map ModifierSibling.input := by
      rw [List.findIdx?_eq_none_iff] at hfind
      rintro h
      obtain ⟨entry, hentry, rfl⟩ := List.mem_map.mp h
      simpa using hfind entry hentry
    have hroom : s.entries.length < 4 := by
      -- the inputs of the table and the new one are all different
      have hsub : (input :: s.entries.map ModifierSibling.input) ⊆ inputs := by
        intro x hx
        rcases List.mem_cons.mp hx with rfl | hx
        · exact hmem
        · obtain ⟨entry, hentry, rfl⟩ := List.mem_map.mp hx
          exact hs.mem entry hentry
      have := (List.subperm_of_subset (List.nodup_cons.mpr ⟨hnew, hs.nodup⟩) hsub).length_le
      simp only [List.length_cons, List.length_map] at this
      omega
    simp only [hroom, if_true]
    refine ⟨_, rfl, ⟨?_, ?_⟩, fun input' held => ?_⟩
    · simp [List.nodup_append, hs.nodup]
      exact fun entry hentry => fun h => hnew (List.mem_map.mpr ⟨entry, hentry, h⟩)
    · simp only [List.mem_append, List.mem_singleton]
      rintro entry (hentry | rfl)
      · exact hs.mem entry hentry
      · exact hmem
    · simp [isSuppressed, Bool.beq_eq_decide_eq]

end RuntimeSiblingSuppression

/-- A sibling of the layer `layer` that mutes `input` while one of the keys `held` is held. -/
def MutedBy (layer : LayerId) (input : RuntimePhysicalInput) (held : ModifierMask)
    (sibling : BindingV2 × LayerId) : Prop :=
  sibling.2 = layer ∧ input ∈ resolvedPhysicalInputs sibling.1.input ∧
    ∃ modifier, sibling.1.modifier.bind HostKeyName.parse = some modifier ∧
      held.contains modifier = true

theorem addSibling_ok {inputs : List RuntimePhysicalInput} {s : RuntimeSiblingSuppression}
    (hs : s.About inputs) (hlen : inputs.length ≤ 4) {input : RuntimePhysicalInput}
    (hmem : input ∈ inputs) (layer : LayerId) (sibling : BindingV2 × LayerId) :
    ∃ s', addSibling layer input s sibling = .ok s' ∧ s'.About inputs ∧ ∀ input' held,
      s'.isSuppressed input' held = true ↔ s.isSuppressed input' held = true ∨
        (input = input' ∧ MutedBy layer input held sibling) := by
  unfold addSibling MutedBy
  split
  · next hlayer => exact ⟨s, rfl, hs, fun _ _ => by simp [hlayer]⟩
  · next hlayer =>
    cases hmod : sibling.1.modifier.bind HostKeyName.parse with
    | none => exact ⟨s, rfl, hs, fun _ _ => by simp⟩
    | some modifier =>
      simp only
      split
      · next hin =>
        obtain ⟨s', hadd, hs', hsup⟩ := RuntimeSiblingSuppression.add_ok hs hlen hmem modifier
        refine ⟨s', hadd, hs', fun input' held => ?_⟩
        rw [hsup]
        simp [not_not.mp hlayer, hin]
      · next hin => exact ⟨s, rfl, hs, fun _ _ => by simp [hin]⟩

theorem length_resolvedPhysicalInputs (input : InputV2) :
    (resolvedPhysicalInputs input).length ≤ 4 := by
  have hlen : ∀ l : List (Option RuntimePhysicalInput), l.reduceOption.length ≤ l.length :=
    List.reduceOption_length_le
  cases input with
  | key value => exact (hlen _).trans (by simp)
  | keyCluster up left down right => exact (hlen _).trans (by simp)
  | mouseButton button => exact (hlen _).trans (by simp)
  | mouseMove => simp [resolvedPhysicalInputs]

/-- **The table of an unmodified binding mutes an input exactly when a binding of the same
layer has it with a held modifier.**  It is always built: four entries are enough. -/
theorem precomputeSiblingSuppression_spec (binding : BindingV2) (layer : LayerId)
    (siblings : List (BindingV2 × LayerId)) :
    ∃ s, precomputeSiblingSuppression binding layer siblings = .ok s ∧ s.entries.length ≤ 4 ∧
      (binding.modifier = none → ∀ input held, s.isSuppressed input held = true ↔
        input ∈ resolvedPhysicalInputs binding.input ∧
          ∃ sibling ∈ siblings, MutedBy layer input held sibling) := by
  unfold precomputeSiblingSuppression
  split
  · next h => exact ⟨_, rfl, Nat.zero_le _, fun hnone => by simp [hnone] at h⟩
  · next h =>
    generalize hinputs : resolvedPhysicalInputs binding.input = inputs
    have hlen : inputs.length ≤ 4 := hinputs ▸ length_resolvedPhysicalInputs binding.input
    obtain ⟨s, hok, habout, hs⟩ := foldlM_ok
      (fun s input => siblings.foldlM (addSibling layer input) s) inputs
      (fun done s => s.About inputs ∧ ∀ input held, s.isSuppressed input held = true ↔
        input ∈ done ∧ ∃ sibling ∈ siblings, MutedBy layer input held sibling)
      (by
        rintro done input s ⟨rest, hsplit⟩ ⟨habout, hsup⟩
        have hmem : input ∈ inputs := by simp [hsplit]
        obtain ⟨t, hok, habout', hsup'⟩ := foldlM_ok (addSibling layer input) siblings
          (fun seen t => t.About inputs ∧ ∀ input' held, t.isSuppressed input' held = true ↔
            s.isSuppressed input' held = true ∨
              (input = input' ∧ ∃ sibling ∈ seen, MutedBy layer input held sibling))
          (by
            rintro seen sibling t - ⟨habout, hsup⟩
            obtain ⟨t', hok, habout', hsup'⟩ := addSibling_ok habout hlen hmem layer sibling
            refine ⟨t', hok, habout', fun input' held => ?_⟩
            rw [hsup', hsup]
            simp only [List.mem_append, List.mem_singleton, or_and_right, exists_or,
              exists_eq_left]
            rw [or_assoc, ← and_or_left])
          ⟨habout, by simp⟩
        refine ⟨t, hok, habout', fun input' held => ?_⟩
        rw [hsup', hsup]
        simp only [List.mem_append, List.mem_singleton, or_and_right]
        refine or_congr_right ⟨?_, ?_⟩
        · rintro ⟨rfl, h⟩
          exact ⟨rfl, h⟩
        · rintro ⟨rfl, h⟩
          exact ⟨rfl, h⟩)
      ⟨RuntimeSiblingSuppression.about_new _, by
        simp [RuntimeSiblingSuppression.isSuppressed, RuntimeSiblingSuppression.new]⟩
    exact ⟨s, hok, habout.length_le.trans hlen, fun _ => hs⟩

/-! ### What is known of a plan -/

@[simp] theorem bind_eq_ok {ε α β : Type} {x : Except ε α} {f : α → Except ε β} {b : β} :
    x >>= f = .ok b ↔ ∃ a, x = .ok a ∧ f a = .ok b := by
  cases x <;> simp [bind, Except.bind]

@[simp] theorem orStop_eq_ok {ε α : Type} {wrap : ε → RuntimeControlPlanError} {x : Except ε α}
    {a : α} : orStop wrap x = .ok a ↔ x = .ok a := by
  cases x <;> simp [orStop]

@[simp] theorem expect_eq_ok {α : Type} {message : String} {x : Option α} {a : α} :
    expect message x = .ok a ↔ x = some a := by
  cases x <;> simp [expect]

/-- What the plan makes of an action, and the next free contact identifier. -/
def ActionV2.Makes (resolution : Resolution) (next : ContactId) :
    ActionV2 → RuntimeControlAction → ContactId → Prop
  | .tap point, action, next' => action = .tap (point.materialize resolution) ∧ next' = next
  | .hold point, action, next' => action = .hold (point.materialize resolution) ∧ next' = next
  | .virtualJoystick center radius deadZone mode reaffirmMs, action, next' =>
    ∃ joystick, VirtualJoystick.fromProfileV2Geometry next center radius deadZone resolution =
        .ok joystick ∧
      action = .virtualJoystick joystick mode (reaffirmMs.map millis) ∧ next' = saturatingSucc next
  | .mouseAim _ _ toggleKey recenterThreshold _ _ reaffirmMs, action, next' =>
    ∃ origin region sensitivity aim settings,
      MouseAim.new next origin region resolution sensitivity = .ok aim ∧
      action = .mouseAim aim settings ∧
      settings.alternateContactId = saturatingSucc next ∧ settings.toggleKey = toggleKey ∧
      settings.recenterThresholdMilli = asUnsigned u16Max (roundHalfAway (recenterThreshold * 1000)) ∧
      settings.reaffirmInterval = reaffirmMs.map millis ∧
      next' = saturatingSucc (saturatingSucc next)
  | .macroSteps _, _, _ => False

theorem materializeAction_ok {binding : BindingV2} {resolution : Resolution}
    {next next' : ContactId} {action : RuntimeControlAction}
    (h : materializeAction binding resolution next = .ok (action, next')) :
    binding.action.Makes resolution next action next' := by
  unfold materializeAction at h
  cases hb : binding.action with
  | tap point | hold point =>
    simp only [hb, Except.ok.injEq, Prod.mk.injEq] at h
    exact ⟨h.1.symm, h.2.symm⟩
  | virtualJoystick center radius deadZone mode reaffirmMs =>
    simp only [hb, allocateContactId, bind_eq_ok, orStop_eq_ok, pure, Except.pure, Except.ok.injEq,
      Prod.mk.injEq] at h
    obtain ⟨joystick, hjoystick, rfl, rfl⟩ := h
    exact ⟨joystick, hjoystick, rfl, rfl⟩
  | mouseAim region sensitivity toggleKey threshold gap ads reaffirmMs =>
    simp only [hb, allocateContactId, bind_eq_ok, orStop_eq_ok, pure, Except.pure, Except.ok.injEq,
      Prod.mk.injEq] at h
    obtain ⟨width, -, height, -, speed, -, aim, haim, scale, -, rfl, rfl⟩ := h
    exact ⟨_, _, speed, aim, _, haim, rfl, rfl, rfl, rfl, rfl, rfl⟩
  | macroSteps steps => simp [hb] at h

/-- A control is what the plan makes of a binding. -/
structure BindingV2.RealizedBy (layers : List LayerV2) (resolution : Resolution)
    (binding : BindingV2) (control : RuntimeControlBinding) : Prop where
  name : control.name = binding.name
  input : control.input = binding.input
  layer : resolveBindingLayer layers binding = .ok control.layer
  modifier : control.modifier = binding.modifier.bind HostKeyName.parse
  action : ∃ nextContactId nextContactId',
    materializeAction binding resolution nextContactId = .ok (control.action, nextContactId')

/-- The layer of a plan is what the plan makes of a declared layer. -/
structure LayerV2.RealizedBy (entry : LayerV2 × ℕ) (layer : RuntimeLayer) : Prop where
  name : layer.name = entry.1.name
  key : HostKeyName.parse entry.1.activation.key = some layer.activationKey
  mode : layer.mode = entry.1.activation.mode
  id : layer.id = entry.2 + 1

/-- What is known of the plan of a profile. -/
structure RuntimeControlPlan.Realizes (plan : RuntimeControlPlan) (profile : ProfileV2)
    (resolution : Resolution) : Prop where
  accepted : profile.Accepts .rust
  resolution_eq : plan.resolution = resolution
  layers : List.Forall₂ LayerV2.RealizedBy profile.layers.zipIdx plan.layers
  modifierKeys : ∀ key, plan.modifierKeys.contains key = true ↔
    ∃ binding ∈ profile.bindings, binding.modifier.bind HostKeyName.parse = some key
  controls : List.Forall₂ (BindingV2.RealizedBy profile.layers resolution) profile.bindings
    plan.controls
  suppression : ∀ control ∈ plan.controls, ∀ input held, control.isSuppressed input held = true ↔
    control.modifier = none ∧ input ∈ resolvedPhysicalInputs control.input ∧
      ∃ sibling ∈ plan.controls, sibling.layer = control.layer ∧
        input ∈ resolvedPhysicalInputs sibling.input ∧
          ∃ modifier, sibling.modifier = some modifier ∧ held.contains modifier = true

theorem layerIdOfIndex_of_lt {index : ℕ} (h : index < 64) : layerIdOfIndex index = .ok (index + 1) := by
  have : index % (u16Max + 1) = index := Nat.mod_eq_of_lt (by unfold u16Max; omega)
  rw [layerIdOfIndex, this, if_pos (by unfold u16Max; omega)]

theorem foldlM_insertModifier {modifiers : List String} {mask mask' : ModifierMask}
    (h : modifiers.foldlM insertModifier mask = .ok mask') (key : HostKeyName) :
    mask'.contains key = true ↔ mask.contains key = true ∨
      ∃ modifier ∈ modifiers, HostKeyName.parse modifier = some key := by
  induction modifiers generalizing mask with
  | nil =>
    obtain rfl : mask = mask' := by simpa [pure, Except.pure] using h
    simp
  | cons modifier modifiers ih =>
    rw [List.foldlM_cons, bind_eq_ok] at h
    obtain ⟨mid, hmid, hrest⟩ := h
    obtain ⟨key', hkey', hins⟩ := bind_eq_ok.mp hmid
    obtain rfl : mask.insert key' = mid := by simpa [pure, Except.pure] using hins
    rw [expect_eq_ok] at hkey'
    rw [ih hrest]
    simp only [ModifierMask.contains_insert, Bool.or_eq_true, decide_eq_true_eq, List.mem_cons,
      exists_eq_or_imp, hkey', Option.some.injEq, or_assoc]

theorem materializeControls_ok {resolution : Resolution} {siblings rest : List (BindingV2 × LayerId)}
    {next : ContactId} {controls : List RuntimeControlBinding}
    (h : materializeControls resolution siblings rest next = .ok controls) :
    List.Forall₂ (fun entry control => control.name = entry.1.name ∧
      control.input = entry.1.input ∧ control.layer = entry.2 ∧
      control.modifier = entry.1.modifier.bind HostKeyName.parse ∧
      precomputeSiblingSuppression entry.1 entry.2 siblings = .ok control.siblingSuppression ∧
      ∃ n n', materializeAction entry.1 resolution n = .ok (control.action, n')) rest controls := by
  induction rest generalizing next controls with
  | nil =>
    obtain rfl : [] = controls := by simpa [materializeControls] using h
    exact .nil
  | cons entry rest ih =>
    obtain ⟨binding, layer⟩ := entry
    simp only [materializeControls, bind_eq_ok, pure, Except.pure, Except.ok.injEq] at h
    obtain ⟨⟨action, next'⟩, haction, suppression, hsup, controls', hrest, rfl⟩ := h
    exact .cons ⟨rfl, rfl, rfl, rfl, hsup, next, next', haction⟩ (ih hrest)

/-- **What is known of every plan.** -/
theorem fromProfileV2_realizes {profile : ProfileV2} {resolution : Resolution}
    {plan : RuntimeControlPlan}
    (h : RuntimeControlPlan.fromProfileV2 profile resolution = .ok plan) :
    plan.Realizes profile resolution := by
  simp only [RuntimeControlPlan.fromProfileV2, bind_eq_ok, orStop_eq_ok, pure, Except.pure,
    Except.ok.injEq] at h
  obtain ⟨bindingLayers, hlayers, ⟨⟩, hvalid, layers, hresolve, modifierKeys, hmods, controls,
    hcontrols, rfl⟩ := h
  have hacc := validate_eq_ok.mp hvalid
  have hlayers := mapM_eq_ok.mp hlayers
  have hresolved : ∀ b l, (b, l) ∈ profile.bindings.zip bindingLayers →
      resolveBindingLayer profile.layers b = .ok l :=
    fun b l hmem => (List.forall₂_iff_zip.mp hlayers).2 hmem
  have hcontrols := materializeControls_ok hcontrols
  refine ⟨hacc, rfl, ?_, fun key => ?_, ?_, fun control hcontrol input held => ?_⟩
  · have hindex : ∀ entry ∈ profile.layers.zipIdx, entry.2 < 64 := by
      rintro ⟨l, i⟩ hentry
      have := (List.mem_zipIdx' hentry).1
      have := hacc.layer_count
      simp only
      omega
    refine ((List.forall₂_and_left _ _).mpr ⟨hindex, mapM_eq_ok.mp hresolve⟩).imp ?_
    rintro ⟨l, i⟩ layer ⟨hi, hl⟩
    simp only [resolveLayer, bind_eq_ok, expect_eq_ok, layerIdOfIndex_of_lt hi, pure, Except.pure,
      Except.ok.injEq, exists_eq_left'] at hl
    obtain ⟨key, hkey, rfl⟩ := hl
    exact ⟨rfl, hkey, rfl, rfl⟩
  · rw [foldlM_insertModifier hmods]
    simp only [ModifierMask.contains_empty, Bool.false_eq_true, false_or, List.mem_filterMap,
      Option.bind_eq_some_iff]
    constructor
    · rintro ⟨modifier, ⟨b, hb, hm⟩, hkey⟩
      exact ⟨b, hb, modifier, hm, hkey⟩
    · rintro ⟨b, hb, modifier, hm, hkey⟩
      exact ⟨modifier, ⟨b, hb, hm⟩, hkey⟩
  · refine (forall₂_of_zip hlayers.length_eq hcontrols).imp ?_
    rintro b c ⟨l, hmem, hname, hinput, hlayer, hmod, -, haction⟩
    exact ⟨hname, hinput, hlayer ▸ hresolved b l hmem, hmod, haction⟩
  · obtain ⟨⟨b, l⟩, hmem, hname, hinput, hlayer, hmod, hsup, -⟩ :=
      forall₂_exists_left hcontrols hcontrol
    obtain ⟨s, hs, -, hspec⟩ :=
      precomputeSiblingSuppression_spec b l (profile.bindings.zip bindingLayers)
    obtain rfl : s = control.siblingSuppression := by simpa [hs] using hsup
    have hb : b ∈ profile.bindings := (List.of_mem_zip hmem).1
    -- every modifier of an accepted profile is parsed
    have hnone : control.modifier = none ↔ b.modifier = none := by
      rw [hmod]
      cases hm : b.modifier with
      | none => simp
      | some m =>
        obtain ⟨key, hkey⟩ := HostKeyName.exists_parse.mpr
          (knownKeyName_iff.mpr ((hacc.bindings b hb).modifier m hm).known)
        simp [hkey]
    have hmuted : (∃ sibling ∈ profile.bindings.zip bindingLayers, MutedBy l input held sibling) ↔
        ∃ sibling ∈ controls, sibling.layer = control.layer ∧
          input ∈ resolvedPhysicalInputs sibling.input ∧
            ∃ modifier, sibling.modifier = some modifier ∧ held.contains modifier = true := by
      constructor
      · rintro ⟨sibling, hsib, hl, hin, modifier, hmodifier, hheld⟩
        obtain ⟨c, hc, -, hcin, hcl, hcm, -⟩ := forall₂_exists_right hcontrols hsib
        exact ⟨c, hc, by rw [hcl, hl, hlayer], hcin ▸ hin, modifier, hcm ▸ hmodifier, hheld⟩
      · rintro ⟨c, hc, hl, hin, modifier, hmodifier, hheld⟩
        obtain ⟨sibling, hsib, -, hcin, hcl, hcm, -⟩ := forall₂_exists_left hcontrols hc
        exact ⟨sibling, hsib, by rw [← hcl, hl, hlayer], hcin ▸ hin, modifier, hcm ▸ hmodifier,
          hheld⟩
    rw [RuntimeControlBinding.isSuppressed, Bool.and_eq_true, Option.isNone_iff_eq_none, ← hmuted,
      hinput]
    constructor
    · rintro ⟨hm, hsup⟩
      exact ⟨hm, (hspec (hnone.mp hm) input held).mp hsup⟩
    · rintro ⟨hm, hsup⟩
      exact ⟨hm, (hspec (hnone.mp hm) input held).mpr hsup⟩

end Wroid
