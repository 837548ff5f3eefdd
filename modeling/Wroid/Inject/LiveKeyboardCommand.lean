import Wroid.Inject.LiveKeyboardTiming
import Wroid.Lib.Integers
import Wroid.Session.Surface

/-!
# The command line of the live keyboard

The arguments are read from left to right: a later option overrides an earlier one, taps are
collected, and what is no option is the keyboard, the width and the height.  Every tap has to be
inside the surface; the joystick is placed by the size of the surface.

## Main definitions

* `parseLiveKeyboardCommand` — the command, or the text of the error.
* `Accepted` — what the options of an accepted command line satisfy.

## Main results

* `parse_options` — what every accepted command line has.
* `joystick_exists` — the joystick of an accepted command can be made exactly if the surface has
  pixels.
* `commands_touch_the_surface` — **every touch of every session that a command line starts is a
  touch of one of two contacts, on the surface**.
-/

namespace Wroid

open Lib

/-! ### The command -/

inductive LiveKeyboardCommand
  | run (options : LiveKeyboardOptions)
  | cleanup
  deriving DecidableEq, Repr

namespace LiveKeyboard

/-- A number of milliseconds. -/
def parseReadyDelayArg (value : Option String) (flag : String) : Except String ℕ :=
  match value with
  | none => .error s!"{flag} requires a millisecond value"
  | some value =>
    match readUnsigned u64Max value.toList with
    | .error error => .error s!"invalid value for {flag}: {error.text}"
    | .ok millis => .ok millis

def parseMillisArg (value : Option String) (flag : String) : Except String ℕ := do
  let millis ← parseReadyDelayArg value flag
  if millis = 0 then .error s!"{flag} must be greater than zero" else .ok millis

def parseDimension (value : Option String) (default : ℕ) (label : String) : Except String ℕ :=
  match value with
  | none => .ok default
  | some value =>
    match readUnsigned u32Max value.toList with
    | .error error => .error s!"invalid {label} '{value}': {error.text}"
    | .ok dimension => .ok dimension

def parseCoordinate (value : List Char) (axis binding : String) : Except String ℕ :=
  match readUnsigned u32Max (trimChars rustBlank value) with
  | .error error => .error s!"invalid tap binding '{binding}' {axis} coordinate: {error.text}"
  | .ok coordinate => .ok coordinate

def parseKeyTapBinding (value : Option String) (flag : String) : Except String KeyTapBinding :=
  match value with
  | none => .error s!"{flag} requires KEY:X,Y"
  | some value =>
    match splitOnce ':' value.toList with
    | none => .error s!"invalid {flag} binding '{value}': expected KEY:X,Y"
    | some (key, point) =>
      let key := trimChars rustBlank key
      if key = [] then .error s!"invalid {flag} binding '{value}': key must not be empty"
      else
        match splitOnce ',' point with
        | none => .error s!"invalid {flag} binding '{value}': expected KEY:X,Y"
        | some (x, y) => do
          let x ← parseCoordinate x "x" value
          let y ← parseCoordinate y "y" value
          return ⟨.ofList key, ⟨x, y⟩⟩

def validateKeyTaps (bindings : List KeyTapBinding) (width height : ℕ) : Except String Unit :=
  match bindings with
  | [] => .ok ()
  | binding :: rest =>
    if width ≤ binding.point.x ∨ height ≤ binding.point.y then
      .error s!"tap binding {binding.key}:{binding.point.x},{binding.point.y} is outside {width}x{height} surface"
    else validateKeyTaps rest width height

/-- What the options read so far have set. -/
structure ParsedArguments where
  positional : List String
  grab : Bool
  showUi : Bool
  traceAndroid : Bool
  reaffirmInterval : Option ℕ
  holdLogInterval : Option ℕ
  readyDelay : ℕ
  keyTaps : List KeyTapBinding

def ParsedArguments.initial : ParsedArguments where
  positional := []
  grab := true
  showUi := true
  traceAndroid := true
  reaffirmInterval := some DEFAULT_REAFFIRM_INTERVAL
  holdLogInterval := some DEFAULT_HOLD_LOG_INTERVAL
  readyDelay := DEFAULT_READY_DELAY
  keyTaps := []

/-- The options without a value. -/
def flags : List (String × (ParsedArguments → ParsedArguments)) :=
  [("--grab", fun parsed => { parsed with grab := true }),
    ("--no-grab", fun parsed => { parsed with grab := false }),
    ("--no-ui", fun parsed => { parsed with showUi := false }),
    ("--no-trace", fun parsed => { parsed with traceAndroid := false }),
    ("--no-reaffirm", fun parsed => { parsed with reaffirmInterval := none }),
    ("--no-hold-log", fun parsed => { parsed with holdLogInterval := none })]

/-- The options that take the argument behind them. -/
def valueOptions :
    List (String × (Option String → ParsedArguments → Except String ParsedArguments)) :=
  [("--reaffirm-ms", fun value parsed => do
      let millis ← parseMillisArg value "--reaffirm-ms"
      return { parsed with reaffirmInterval := some millis }),
    ("--hold-log-ms", fun value parsed => do
      let millis ← parseMillisArg value "--hold-log-ms"
      return { parsed with holdLogInterval := some millis }),
    ("--ready-delay-ms", fun value parsed => do
      let millis ← parseReadyDelayArg value "--ready-delay-ms"
      return { parsed with readyDelay := millis }),
    ("--tap", fun value parsed => do
      let binding ← parseKeyTapBinding value "--tap"
      return { parsed with keyTaps := parsed.keyTaps ++ [binding] })]

/-- What one argument does, and whether it takes the next one, `value`. -/
def readArgument (argument : String) (value : Option String) (parsed : ParsedArguments) :
    Except String (ParsedArguments × Bool) :=
  match flags.find? fun option => option.1 == argument with
  | some flag => .ok (flag.2 parsed, false)
  | none =>
    match valueOptions.find? fun option => option.1 == argument with
    | some option => do
      let parsed ← option.2 value parsed
      return (parsed, true)
    | none =>
      if ['-', '-'] <+: argument.toList then .error s!"unknown option: {argument}"
      else .ok ({ parsed with positional := parsed.positional ++ [argument] }, false)

/-- The loop over the arguments; `skip` says that the first is the value of the option before. -/
def readArguments : Bool → List String → ParsedArguments → Except String ParsedArguments
  | _, [], parsed => .ok parsed
  | true, _ :: rest, parsed => readArguments false rest parsed
  | false, argument :: rest, parsed => do
    let (parsed, takesValue) ← readArgument argument rest.head? parsed
    readArguments takesValue rest parsed

/-- The options that the arguments stand for. -/
def optionsOf (parsed : ParsedArguments) : Except String LiveKeyboardOptions :=
  match parsed.positional with
  | [] => .error "keyboard event node is required unless --cleanup is used"
  | keyboardPath :: sizes =>
    if 3 < parsed.positional.length then .error "too many positional arguments"
    else do
      let width ← parseDimension sizes[0]? DEFAULT_LIVE_WIDTH "width"
      let height ← parseDimension sizes[1]? DEFAULT_LIVE_HEIGHT "height"
      validateKeyTaps parsed.keyTaps width height
      return {
        keyboardPath, width, height
        joystickCenter := defaultJoystickCenter width height
        joystickRadius := defaultJoystickRadius width height
        keyTaps := parsed.keyTaps
        grab := parsed.grab
        showUi := parsed.showUi
        traceAndroid := parsed.traceAndroid
        reaffirmInterval := parsed.reaffirmInterval
        holdLogInterval := parsed.holdLogInterval
        readyDelay := parsed.readyDelay }

def parseLiveKeyboardCommand (args : List String) : Except String LiveKeyboardCommand :=
  if args.any (· == "--cleanup") then .ok .cleanup
  else do
    let parsed ← readArguments false args .initial
    let options ← optionsOf parsed
    return .run options

/-! ### What is accepted -/

/-- The surface has every tap. -/
theorem validateKeyTaps_eq_ok {bindings : List KeyTapBinding} {width height : ℕ} :
    validateKeyTaps bindings width height = .ok () ↔
      ∀ binding ∈ bindings, binding.point.Inside ⟨width, height⟩ := by
  induction bindings with
  | nil => simp [validateKeyTaps]
  | cons binding rest ih =>
    rw [validateKeyTaps, List.forall_mem_cons]
    split
    · next houtside =>
      constructor
      · intro h
        cases h
      · rintro ⟨⟨hx, hy⟩, -⟩
        simp only at hx hy
        omega
    · next hinside =>
      rw [not_or, not_le, not_le] at hinside
      rw [ih]
      exact ⟨fun h => ⟨hinside, h⟩, fun h => h.2⟩

/-- The intervals that were read are positive. -/
structure Positive (parsed : ParsedArguments) : Prop where
  reaffirm : ∀ i, parsed.reaffirmInterval = some i → 0 < i
  holdLog : ∀ i, parsed.holdLogInterval = some i → 0 < i

theorem positive_initial : Positive .initial where
  reaffirm i hi := by
    obtain rfl := Option.some.inj hi
    decide
  holdLog i hi := by
    obtain rfl := Option.some.inj hi
    decide

theorem parseMillisArg_pos {value : Option String} {flag : String} {millis : ℕ}
    (h : parseMillisArg value flag = .ok millis) : 0 < millis := by
  obtain ⟨read, -, hread⟩ := bind_eq_ok.mp h
  split at hread
  · cases hread
  · next hne =>
    obtain rfl := Except.ok.inj hread
    omega

theorem flags_positive {parsed : ParsedArguments} (hparsed : Positive parsed) :
    ∀ flag ∈ flags, Positive (flag.2 parsed) := by
  simp only [flags, List.forall_mem_cons]
  refine ⟨⟨hparsed.reaffirm, hparsed.holdLog⟩, ⟨hparsed.reaffirm, hparsed.holdLog⟩,
    ⟨hparsed.reaffirm, hparsed.holdLog⟩, ⟨hparsed.reaffirm, hparsed.holdLog⟩,
    ⟨fun i hi => ?_, hparsed.holdLog⟩, ⟨hparsed.reaffirm, fun i hi => ?_⟩, by simp⟩
  · cases hi
  · cases hi

theorem valueOptions_positive {parsed parsed' : ParsedArguments} {value : Option String}
    (hparsed : Positive parsed) :
    ∀ option ∈ valueOptions, option.2 value parsed = .ok parsed' → Positive parsed' := by
  simp only [valueOptions, List.forall_mem_cons]
  refine ⟨fun h => ?_, fun h => ?_, fun h => ?_, fun h => ?_, by simp⟩
  · obtain ⟨millis, hmillis, h⟩ := bind_eq_ok.mp h
    obtain rfl := Except.ok.inj h
    exact ⟨fun i hi => Option.some.inj hi ▸ parseMillisArg_pos hmillis, hparsed.holdLog⟩
  · obtain ⟨millis, hmillis, h⟩ := bind_eq_ok.mp h
    obtain rfl := Except.ok.inj h
    exact ⟨hparsed.reaffirm, fun i hi => Option.some.inj hi ▸ parseMillisArg_pos hmillis⟩
  · obtain ⟨millis, -, h⟩ := bind_eq_ok.mp h
    obtain rfl := Except.ok.inj h
    exact ⟨hparsed.reaffirm, hparsed.holdLog⟩
  · obtain ⟨binding, -, h⟩ := bind_eq_ok.mp h
    obtain rfl := Except.ok.inj h
    exact ⟨hparsed.reaffirm, hparsed.holdLog⟩

theorem readArgument_positive {argument : String} {value : Option String}
    {parsed parsed' : ParsedArguments} {takesValue : Bool} (hparsed : Positive parsed)
    (h : readArgument argument value parsed = .ok (parsed', takesValue)) : Positive parsed' := by
  unfold readArgument at h
  split at h
  · next flag hflag =>
    obtain ⟨rfl, -⟩ := Prod.mk.inj (Except.ok.inj h)
    exact flags_positive hparsed flag (List.mem_of_find?_eq_some hflag)
  split at h
  · next option hoption =>
    obtain ⟨read, hread, h⟩ := bind_eq_ok.mp h
    obtain ⟨rfl, -⟩ := Prod.mk.inj (Except.ok.inj h)
    exact valueOptions_positive hparsed option (List.mem_of_find?_eq_some hoption) hread
  split at h
  · cases h
  · obtain ⟨rfl, -⟩ := Prod.mk.inj (Except.ok.inj h)
    exact ⟨hparsed.reaffirm, hparsed.holdLog⟩

theorem readArguments_positive {skip : Bool} {args : List String}
    {parsed parsed' : ParsedArguments} (hparsed : Positive parsed)
    (h : readArguments skip args parsed = .ok parsed') : Positive parsed' := by
  induction args generalizing skip parsed with
  | nil =>
    rw [readArguments] at h
    exact Except.ok.inj h ▸ hparsed
  | cons argument rest ih =>
    cases skip with
    | true => exact ih hparsed h
    | false =>
      obtain ⟨⟨read, takesValue⟩, hread, hrest⟩ := bind_eq_ok.mp h
      exact ih (readArgument_positive hparsed hread) hrest

/-- What every accepted command line has. -/
structure Accepted (options : LiveKeyboardOptions) : Prop where
  reaffirm : ∀ i, options.reaffirmInterval = some i → 0 < i
  holdLog : ∀ i, options.holdLogInterval = some i → 0 < i
  center : options.joystickCenter = defaultJoystickCenter options.width options.height
  radius : options.joystickRadius = defaultJoystickRadius options.width options.height
  width : options.width ≤ u32Max
  height : options.height ≤ u32Max
  taps : ∀ binding ∈ options.keyTaps, binding.point.Inside ⟨options.width, options.height⟩

theorem parseDimension_le {value : Option String} {default dimension : ℕ} {label : String}
    (hdefault : default ≤ u32Max) (h : parseDimension value default label = .ok dimension) :
    dimension ≤ u32Max := by
  unfold parseDimension at h
  split at h
  · exact Except.ok.inj h ▸ hdefault
  · next text =>
    split at h
    · cases h
    · next read hread =>
      obtain rfl := Except.ok.inj h
      have hparsed := readUnsigned_eq_ok.mp hread
      rw [parseUnsigned, Option.ite_none_right_eq_some] at hparsed
      obtain ⟨⟨-, -, hle⟩, hvalue⟩ := hparsed
      rwa [Option.some.inj hvalue] at hle

/-- **What the options of an accepted command line satisfy.** -/
theorem parse_options {args : List String} {options : LiveKeyboardOptions}
    (h : parseLiveKeyboardCommand args = .ok (.run options)) : Accepted options := by
  unfold parseLiveKeyboardCommand at h
  split at h
  · cases h
  obtain ⟨parsed, hparsed, h⟩ := bind_eq_ok.mp h
  obtain ⟨made, hmade, h⟩ := bind_eq_ok.mp h
  obtain rfl := LiveKeyboardCommand.run.inj (Except.ok.inj h)
  have hpositive := readArguments_positive positive_initial hparsed
  unfold optionsOf at hmade
  split at hmade
  · cases hmade
  split at hmade
  · cases hmade
  obtain ⟨width, hwidth, hmade⟩ := bind_eq_ok.mp hmade
  obtain ⟨height, hheight, hmade⟩ := bind_eq_ok.mp hmade
  obtain ⟨_, htaps, hmade⟩ := bind_eq_ok.mp hmade
  obtain rfl := Except.ok.inj hmade
  exact {
    reaffirm := hpositive.reaffirm
    holdLog := hpositive.holdLog
    center := rfl
    radius := rfl
    width := parseDimension_le (by decide) hwidth
    height := parseDimension_le (by decide) hheight
    taps := validateKeyTaps_eq_ok.mp htaps }

/-- **The joystick of an accepted command can be made exactly if the surface has pixels.** -/
theorem joystick_exists {options : LiveKeyboardOptions} (h : Accepted options) (c : ContactId) :
    (∃ j, VirtualJoystick.new c options.joystickCenter options.joystickRadius
      ⟨options.width, options.height⟩ = .ok j) ↔ 0 < options.width ∧ 0 < options.height := by
  have hheight := h.height
  have hradius : 0 < defaultJoystickRadius options.width options.height := by
    unfold defaultJoystickRadius
    omega
  rw [h.center, h.radius, VirtualJoystick.new, VirtualJoystick.newWithDeadZone, dif_neg (by omega),
    dif_neg (by omega)]
  constructor
  · rintro ⟨j, hj⟩
    split at hj
    · cases hj
    · next hpixels =>
      simp only at hpixels
      omega
  · rintro ⟨hw, hh⟩
    have hcenter : ¬ (options.width ≤ (defaultJoystickCenter options.width options.height).x ∨
        options.height ≤ (defaultJoystickCenter options.width options.height).y) := by
      have hmax : u32Max = 4294967295 := rfl
      simp only [defaultJoystickCenter]
      omega
    rw [if_neg (by simp only; omega), dif_neg hcenter]
    exact ⟨_, rfl⟩

/-! ### Every touch is on the surface -/

variable {I : Type} [TouchInjector I] {W : Set Point} {j : VirtualJoystick}
  {options : LiveKeyboardOptions}

/-- A frame of one of the two contacts of the session. -/
def OwnFrame (frame : TouchFrame) : Prop :=
  ∃ event, frame = .single event ∧
    (event.contactId = JOYSTICK_CONTACT_ID ∨ event.contactId = TAP_CONTACT_ID)

/-- Everything is in `W`, and only the contacts of the session were used. -/
structure OnSurface (W : Set Point) (engine : TouchEngine (Recorder I)) : Prop where
  places : engine.On W
  own : ∀ frame ∈ engine.injector.submitted, OwnFrame frame

theorem submit_own {event : TouchEvent} (hp : event.position ∈ W)
    (hid : event.contactId = JOYSTICK_CONTACT_ID ∨ event.contactId = TAP_CONTACT_ID) :
    Preserves (OnSurface (I := I) W) (TouchEngine.submit (.single event)) := by
  intro engine hengine
  have hown : ∀ frame ∈ engine.injector.submitted ++ [.single event], OwnFrame frame := by
    intro frame hframe
    rcases List.mem_append.mp hframe with hframe | hframe
    · exact hengine.own frame hframe
    · exact ⟨event, List.mem_singleton.mp hframe, hid⟩
  refine wp_mono (wp_and (TouchEngine.single_on hp engine hengine.places)
    (submit_records (.single event))) ?_ ?_
  · rintro _ e ⟨hplaces, hsubmitted, -⟩
    exact ⟨hplaces, fun frame hframe => hown frame (hsubmitted ▸ hframe)⟩
  · rintro _ e ⟨hplaces, hsubmitted | hsubmitted, -⟩
    · exact ⟨hplaces, fun frame hframe => hengine.own frame (hsubmitted ▸ hframe)⟩
    · exact ⟨hplaces, fun frame hframe => hown frame (hsubmitted ▸ hframe)⟩

theorem endContact_own {c : ContactId} (hc : c = JOYSTICK_CONTACT_ID ∨ c = TAP_CONTACT_ID) :
    Preserves (OnSurface (I := I) W) (TouchEngine.endContact c) := by
  refine .read fun engine hengine => ?_
  cases hp : engine.state.position c with
  | none => exact preserves_throw _
  | some p => exact submit_own (hengine.places.down c p hp) hc

theorem apply_own (hj : j.contactId = JOYSTICK_CONTACT_ID) (hplaces : j.places ⊆ W)
    (d : DirectionalInput) : Preserves (OnSurface (I := I) W) (j.apply d) := by
  have htarget : ∀ p, j.target d = some p → p ∈ W := fun p hp => hplaces ⟨d, hp⟩
  refine .read fun engine _ => ?_
  cases engine.state.position j.contactId with
  | none =>
    cases hp : j.target d with
    | none => exact preserves_pure _
    | some p => exact .bind (submit_own (htarget p hp) (.inl hj)) fun _ => preserves_pure _
  | some q =>
    cases hp : j.target d with
    | none => exact .bind (endContact_own (.inl hj)) fun _ => preserves_pure _
    | some p =>
      exact .ite (fun _ => preserves_pure _) fun _ =>
        .bind (submit_own (htarget p hp) (.inl hj)) fun _ => preserves_pure _

theorem cancel_own (hj : j.contactId = JOYSTICK_CONTACT_ID) :
    Preserves (OnSurface (I := I) W) j.cancel := by
  refine .read fun engine hengine => ?_
  cases hp : engine.state.position j.contactId with
  | none => exact preserves_pure _
  | some p =>
    exact .bind (submit_own (hengine.places.down _ p hp) (.inl hj)) fun _ => preserves_pure _

/-- The engine of the session is on the surface. -/
abbrev SessionOn (W : Set Point) (s : LiveKeyboard (Recorder I)) : Prop := OnSurface W s.engine

omit [TouchInjector I] in
theorem onEngine_own {α : Type} {m : TouchEngine.EngineM (Recorder I) α}
    (h : Preserves (OnSurface W) m) : Preserves (SessionOn W) (onEngine m) :=
  .mapError (.zoom h (fun _ hs => hs) fun _ _ _ he => he) _

omit [TouchInjector I] in
/-- What does not touch the engine. -/
theorem modify_own {ε : Type} {f : LiveKeyboard (Recorder I) → LiveKeyboard (Recorder I)}
    (hf : ∀ s, (f s).engine = s.engine) :
    Preserves (SessionOn W) (modify f : EStateM ε (LiveKeyboard (Recorder I)) PUnit) :=
  preserves_modify fun s hs => by rwa [SessionOn, hf s]

theorem resend_own (hj : j.contactId = JOYSTICK_CONTACT_ID) :
    Preserves (SessionOn (I := I) W) (resendContact j) := by
  refine .read fun s hs => ?_
  cases hp : s.engine.state.position j.contactId with
  | none => exact preserves_pure _
  | some p => exact onEngine_own (submit_own (hs.places.down _ p hp) (.inl hj))

theorem event_own (hj : j.contactId = JOYSTICK_CONTACT_ID) (hplaces : j.places ⊆ W)
    (htaps : ∀ binding ∈ options.keyTaps, binding.point ∈ W) (event : HostKeyEvent) (now : ℕ) :
    Preserves (SessionOn (I := I) W) (handleKeyboardEvent j options event now) := by
  unfold handleKeyboardEvent
  refine .ite (fun _ => preserves_pure _) fun _ => ?_
  cases event.movementEvent with
  | some movement =>
    refine .read fun s _ => ?_
    generalize s.keys.apply movement = answer
    refine .bind (modify_own fun _ => rfl) fun _ => ?_
    cases answer.2 with
    | directionChanged input =>
      refine .bind (onEngine_own (apply_own hj hplaces input)) fun _ => ?_
      exact .bind (modify_own fun _ => rfl) fun _ => preserves_pure _
    | exitRequested => exact preserves_pure _
    | ignored => exact preserves_pure _
  | none =>
    refine .ite (fun _ => ?_) fun _ => preserves_pure _
    cases hfind : options.keyTaps.find? fun binding =>
        keyNameMatches event.key.profileName binding.key with
    | none => exact preserves_pure _
    | some binding =>
      have hpoint := htaps binding (List.mem_of_find?_eq_some hfind)
      refine .bind ?_ fun _ => preserves_pure _
      refine .bind (onEngine_own ?_) fun _ => onEngine_own (endContact_own (.inr rfl))
      exact submit_own hpoint (.inr rfl)

theorem service_own (hj : j.contactId = JOYSTICK_CONTACT_ID) (now : ℕ) :
    Preserves (SessionOn (I := I) W) (serviceHoldTimers j options now) := by
  unfold serviceHoldTimers
  refine .read fun s _ => .ite (fun _ => modify_own fun _ => rfl) fun _ => ?_
  refine .bind ?_ fun _ => modify_own fun _ => rfl
  refine .read fun s _ => ?_
  split
  · refine .ite (fun _ => ?_) fun _ => preserves_pure _
    exact .bind (resend_own hj) fun _ => modify_own fun _ => rfl
  · exact preserves_pure _

theorem step_own (hj : j.contactId = JOYSTICK_CONTACT_ID) (hplaces : j.places ⊆ W)
    (htaps : ∀ binding ∈ options.keyTaps, binding.point ∈ W) (loopStep : LoopStep) :
    Preserves (SessionOn (I := I) W) (step j options loopStep) := by
  cases loopStep with
  | interruptCheck requested =>
    exact .ite (fun _ => preserves_throw _) fun _ => preserves_pure _
  | event event now =>
    refine .bind (.mapError (event_own hj hplaces htaps event now) _) fun exit => ?_
    exact .ite (fun _ => preserves_throw _) fun _ => preserves_pure _
  | disconnected => exact preserves_throw _
  | service now => exact .mapError (service_own hj now) _

theorem releaseContact_own (hj : j.contactId = JOYSTICK_CONTACT_ID) (hplaces : j.places ⊆ W) :
    Preserves (SessionOn (I := I) W) (releaseContact j) := by
  refine .read fun s _ => ?_
  generalize s.keys.releaseAll = answer
  refine .bind (modify_own fun _ => rfl) fun _ => ?_
  cases answer.2 with
  | some neutral => exact .bind (onEngine_own (apply_own hj hplaces neutral)) fun _ => preserves_pure _
  | none => exact .bind (onEngine_own (cancel_own hj)) fun _ => preserves_pure _

theorem session_own (hj : j.contactId = JOYSTICK_CONTACT_ID) (hplaces : j.places ⊆ W)
    (htaps : ∀ binding ∈ options.keyTaps, binding.point ∈ W) (turns : List LoopTurn) :
    Preserves (SessionOn (I := I) W) (runLiveKeyboardSession j options turns) := by
  have hanswer : ∀ answer : Except LiveKeyboardError Unit,
      Preserves (SessionOn (I := I) W) (ofAnswer answer) := by
    intro answer
    cases answer with
    | ok u => exact preserves_pure u
    | error e => exact preserves_throw e
  have hloop : Preserves (SessionOn (I := I) W) (runKeyboardLoop j options turns) :=
    preserves_runAll fun loopStep _ => step_own hj hplaces htaps loopStep
  refine .bind hloop.attempt fun capture => ?_
  refine .bind (releaseContact_own hj hplaces).attempt fun cleanup => ?_
  exact .bind (hanswer _) fun _ => hanswer _

/-- **Every touch of a session is on the surface.**  Whatever command line is accepted, whatever
happens in the session and whatever the injector does, the injector is only ever handed frames of
one event, of the joystick contact or of the tap contact, inside the surface of the command. -/
theorem commands_touch_the_surface {args : List String} {options : LiveKeyboardOptions}
    (hcommand : parseLiveKeyboardCommand args = .ok (.run options)) {j : VirtualJoystick}
    (hnew : VirtualJoystick.new JOYSTICK_CONTACT_ID options.joystickCenter options.joystickRadius
      ⟨options.width, options.height⟩ = .ok j) (injector : I) (turns : List LoopTurn) :
    ∀ frame ∈ (after (runLiveKeyboardSession j options turns)
        (start (Recorder.new injector))).engine.injector.submitted,
      ∃ event, frame = .single event ∧
        (event.contactId = JOYSTICK_CONTACT_ID ∨ event.contactId = TAP_CONTACT_ID) ∧
        event.position.Inside ⟨options.width, options.height⟩ := by
  have hj : j.contactId = JOYSTICK_CONTACT_ID := VirtualJoystick.newWithDeadZone_contactId hnew
  have hplaces : j.places ⊆ { p | p.Inside ⟨options.width, options.height⟩ } := by
    rintro p ⟨d, hd⟩
    rw [← VirtualJoystick.new_resolution hnew]
    exact VirtualJoystick.target_inside hd
  have hstart : SessionOn { p | p.Inside ⟨options.width, options.height⟩ }
      (start (Recorder.new injector)) := by
    refine ⟨⟨fun c p hp => ?_, fun frame hframe => ?_⟩, fun frame hframe => ?_⟩
    · rw [start, TouchEngine.new, TouchState.position_empty] at hp
      cases hp
    · cases hframe
    · cases hframe
  have hend := (session_own hj hplaces (parse_options hcommand).taps turns).after hstart
  intro frame hframe
  obtain ⟨event, rfl, hid⟩ := hend.own frame hframe
  exact ⟨event, rfl, hid, hend.places.submitted _ hframe event List.mem_cons_self⟩

theorem default_command_touches_the_surface :
    (after (runLiveKeyboardSession defaultJoystick (.new "/dev/input/event7")
        [⟨false, .events (⟨.named .w, .pressed⟩, 0) [], 60⟩])
        (start (Recorder.new ()))).engine.injector.submitted ≠ [] ∧
      ∀ frame ∈ (after (runLiveKeyboardSession defaultJoystick (.new "/dev/input/event7")
          [⟨false, .events (⟨.named .w, .pressed⟩, 0) [], 60⟩])
          (start (Recorder.new ()))).engine.injector.submitted,
        ∃ event, frame = .single event ∧
          (event.contactId = JOYSTICK_CONTACT_ID ∨ event.contactId = TAP_CONTACT_ID) ∧
          event.position.Inside ⟨1920, 1080⟩ :=
  ⟨by decide +kernel, @commands_touch_the_surface Unit _ ["/dev/input/event7"]
    (.new "/dev/input/event7") (by decide +kernel) defaultJoystick rfl () _⟩

end LiveKeyboard

end Wroid
