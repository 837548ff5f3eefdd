import Wroid.Cli.Interactive

/-!
# What the keymapper of the terminal sends

What is sent at a step follows from the profile and the steps before it: each joystick is pushed
where its keys were last pushed, and paced by a repeater; every other key sends what its binding
says.  The loop keeps no more than the time at which each joystick is due, and sends the same.

## Main definitions

* `Stick.past`, `keysAfter`, `pacing` — what the steps say about one joystick.
* `Session.expected` — what a step is to send.
* `Session.Reached` — the state of the loop after the steps of the past.

## Main results

* `handleKeyEvent_spec`, `dueSwipes_spec` — the two operations.
* `keymapper_sends_what_is_expected` — **what every run sends**.
* `loop_wakes_when_a_swipe_is_due` — **the wait of the loop**.
-/

namespace Wroid

open Lib

namespace Interactive

/-! ### One joystick -/

/-- What happens to a joystick. -/
inductive StickStep
  | key (direction : JoystickDirection) (isPressed : Bool) (now : ℕ)
  | poll (now : ℕ)

/-- How the keys were left by the past, its latest step first. -/
def keysAfter : List StickStep → JoystickKeyState
  | [] => .default
  | .key direction isPressed _ :: past => (keysAfter past).set direction isPressed
  | .poll _ :: past => keysAfter past

namespace Stick

variable (stick : Stick)

/-- Where the joystick is pushed to after the past. -/
def pushed (past : List StickStep) : Option Point :=
  joystickTargetPoint stick.center stick.radius (keysAfter past)

/-- The joystick as a repeater, which is engaged while it is pushed. -/
def pacing : List StickStep → List Repeater.Step
  | [] => []
  | .key direction isPressed now :: past =>
    (if (stick.pushed (.key direction isPressed now :: past)).isSome then .engage now
      else .disengage) :: pacing past
  | .poll now :: past => .poll now :: pacing past

def period : ℕ := fromMillis stick.tickMs

/-- Whether the joystick is to swipe. -/
def Due (past : List StickStep) (now : ℕ) : Prop := Repeater.due stick.period (stick.pacing past) now

instance (past : List StickStep) (now : ℕ) : Decidable (stick.Due past now) :=
  inferInstanceAs (Decidable (Repeater.due _ _ _))

/-- What the joystick is to send. -/
def swipes (past : List StickStep) (now : ℕ) : List Gesture :=
  if stick.Due past now then
    (stick.pushed past).toList.map fun target => .swipe stick.center target stick.swipeDurationMs
  else []

/-- The joystick after the past. -/
def after (past : List StickStep) : JoystickBindingRuntime where
  name := stick.name
  center := stick.center
  radius := stick.radius
  tickMs := stick.tickMs
  swipeDurationMs := stick.swipeDurationMs
  keys := keysAfter past
  nextTick := Repeater.next stick.period (stick.pacing past)

variable {stick : Stick} {past : List StickStep} {now : ℕ}

/-- It is engaged exactly while it is pushed. -/
theorem engaged_pacing (past : List StickStep) :
    Repeater.Engaged (stick.pacing past) = (stick.pushed past).isSome := by
  induction past with
  | nil => rfl
  | cons latest past ih =>
    cases latest with
    | poll now => exact ih
    | key direction isPressed now =>
      rw [pacing]
      split
      · next h => exact h.symm
      · next h => exact (Bool.eq_false_iff.mpr h).symm

/-- **A change of one of its keys.** -/
theorem after_key (direction : JoystickDirection) (isPressed : Bool) (now : ℕ) :
    (stick.after past).setKey direction isPressed now =
      stick.after (.key direction isPressed now :: past) := by
  have htarget : JoystickBindingRuntime.target
      { stick.after past with keys := (keysAfter past).set direction isPressed } =
      stick.pushed (.key direction isPressed now :: past) := rfl
  simp only [JoystickBindingRuntime.setKey, after, pacing, keysAfter,
    JoystickBindingRuntime.mk.injEq, true_and]
  rw [Repeater.next]
  by_cases h : (stick.pushed (.key direction isPressed now :: past)).isSome
  · rw [if_pos h]
    exact if_pos h
  · rw [if_neg h]
    exact if_neg h

/-- **A poll of the joystick.** -/
theorem after_poll {clock : ℕ} (hclock : Repeater.Before clock (stick.pacing past))
    (hnow : clock ≤ now) :
    (stick.after past).dueSwipe now = (stick.after (.poll now :: past), stick.swipes past now) := by
  have htarget : (stick.after past).target = stick.pushed past := rfl
  have hengaged := Repeater.next_isSome stick.period (stick.pacing past)
  rw [engaged_pacing] at hengaged
  have hpolled : Repeater.next stick.period (stick.pacing (.poll now :: past)) =
      (Repeater.next stick.period (stick.pacing past)).map fun time =>
        if time ≤ now then now + stick.period else time := rfl
  have hafter : ∀ next, Repeater.next stick.period (stick.pacing (.poll now :: past)) = next →
      stick.after (.poll now :: past) = { stick.after past with nextTick := next } := by
    intro next hnext
    rw [← hnext]
    rfl
  have hkept : Repeater.next stick.period (stick.pacing (.poll now :: past)) =
      Repeater.next stick.period (stick.pacing past) →
      stick.after (.poll now :: past) = stick.after past := by
    intro hnext
    rw [hafter _ hnext]
    rfl
  have hnextTick : (stick.after past).nextTick = Repeater.next stick.period (stick.pacing past) := rfl
  rw [JoystickBindingRuntime.dueSwipe, hnextTick, swipes]
  cases h : Repeater.next stick.period (stick.pacing past) with
  | none =>
    have hidle : ¬ stick.Due past now := by
      intro hdue
      exact Bool.false_ne_true ((Repeater.next_eq_none_iff.mp h).symm.trans hdue.1)
    rw [if_neg hidle, hkept (by rw [hpolled, h, Option.map_none])]
  | some time =>
    have hdue : time ≤ now ↔ stick.Due past now := Repeater.le_iff_due hclock h hnow
    obtain ⟨target, hpushed⟩ := Option.isSome_iff_exists.mp (by rw [← hengaged, h]; rfl)
    rw [htarget, hpushed]
    by_cases hle : time ≤ now
    · rw [if_pos (hdue.mp hle), hafter (some (now + stick.period))
        (by rw [hpolled, h, Option.map_some, if_pos hle])]
      exact if_neg (not_lt.mpr hle)
    · rw [if_neg fun h' => hle (hdue.mpr h'), hkept
        (by rw [hpolled, h, Option.map_some, if_neg hle])]
      exact if_pos (not_le.mp hle)

end Stick

/-! ### All of them -/

/-- The directions in which a key event moves a joystick. -/
def Stick.pushes (lower : String → String) (stick : Stick) (event : KeyEvent) :
    List JoystickDirection :=
  match keyEventName event.code with
  | none => []
  | some key => stick.directions lower key

/-- What a key event makes of the past of a joystick. -/
def keySteps (directions : List JoystickDirection) (isPressed : Bool) (now : ℕ)
    (past : List StickStep) : List StickStep :=
  directions.foldl (fun past direction => .key direction isPressed now :: past) past

/-- The past of a joystick, the latest step first as in the past of the loop. -/
def Stick.past (lower : String → String) (stick : Stick) : List LoopStep → List StickStep
  | [] => []
  | .key event now :: past =>
    keySteps (stick.pushes lower event) (event.kind != .release) now (Stick.past lower stick past)
  | .failed _ :: past => Stick.past lower stick past
  | .swipes now :: past => .poll now :: Stick.past lower stick past

/-- The reading of the clock in a step that reads it. -/
def LoopStep.time : LoopStep → Option ℕ
  | .key _ now => some now
  | .failed _ => none
  | .swipes now => some now

/-- The clock does not go back in the steps, and has reached `clock` before them. -/
def Chronological : ℕ → List LoopStep → Prop
  | _, [] => True
  | clock, loopStep :: steps =>
    clock ≤ loopStep.time.getD clock ∧ Chronological (loopStep.time.getD clock) steps

/-- The clock after the steps. -/
def clockAfter : ℕ → List LoopStep → ℕ
  | clock, [] => clock
  | clock, loopStep :: steps => clockAfter (loopStep.time.getD clock) steps

namespace Session

variable (session : Session)

def sticks : List Stick := Interactive.sticks session.profile.bindings

/-- Whether a key moves any joystick. -/
def moves (key : String) : Bool :=
  session.sticks.any fun stick => stick.directions session.lower key ≠ []

/-- What a step is to send, after the past. -/
def expected (past : List LoopStep) : LoopStep → List Gesture
  | .key event _ =>
    match keyEventName event.code with
    | none => []
    | some key =>
      if shouldExitKey event ∨ session.moves key ∨ event.kind = .release then []
      else
        match resolveKeyBinding session.lower session.profile.bindings key with
        | some binding => actionGestures binding.action
        | none => []
  | .failed _ => []
  | .swipes now =>
    session.sticks.flatMap fun stick => stick.swipes (stick.past session.lower past) now

/-- What the steps are to send, after the past. -/
def expectedRun : List LoopStep → List LoopStep → List Gesture
  | _, [] => []
  | past, loopStep :: steps =>
    session.expected past loopStep ++ expectedRun (loopStep :: past) steps

/-- The joysticks after the past. -/
structure Reached (past : List LoopStep) (joysticks : JoystickRuntime) : Prop where
  bindings : joysticks.bindings =
    session.sticks.map fun stick => stick.after (stick.past session.lower past)
  keyMap : joysticks.keyMap = keyEntries session.lower 0 session.sticks

/-- The clock has not passed `clock` in the past of any joystick. -/
def Timed (clock : ℕ) (past : List LoopStep) : Prop :=
  ∀ stick ∈ session.sticks,
    Repeater.Before clock (stick.pacing (stick.past session.lower past))

end Session

variable {session : Session} {past : List LoopStep} {clock now : ℕ} {joysticks : JoystickRuntime}

theorem before_keySteps {stick : Stick} {steps : List StickStep} (directions : List JoystickDirection)
    (isPressed : Bool) (h : Repeater.Before now (stick.pacing steps)) :
    Repeater.Before now (stick.pacing (keySteps directions isPressed now steps)) := by
  induction directions generalizing steps with
  | nil => exact h
  | cons direction directions ih =>
    refine ih ?_
    rw [Stick.pacing]
    split
    · exact ⟨le_rfl, h⟩
    · exact ⟨le_rfl, h⟩

theorem Session.Timed.step (h : session.Timed clock past) (loopStep : LoopStep)
    (hclock : clock ≤ loopStep.time.getD clock) :
    session.Timed (loopStep.time.getD clock) (loopStep :: past) := by
  intro stick hstick
  have hpast := (h stick hstick).mono hclock
  cases loopStep with
  | key event now => exact before_keySteps _ _ hpast
  | failed message => exact hpast
  | swipes now => exact ⟨le_rfl, hpast⟩

theorem reached_start : session.Reached [] (start session).joysticks where
  bindings := (fromBindings_eq session.profile.bindings).1
  keyMap := (fromBindings_eq session.profile.bindings).2

/-! ### Keys -/

section Groups

variable {α β δ : Type} (f : δ → β → β)

/-- Changes of the same entry of a list. -/
theorem foldl_modify_group (front : List β) (b : β) (rest : List β) (ds : List δ) :
    (ds.map (front.length, ·)).foldl (fun bs e => bs.modify e.1 (f e.2)) (front ++ b :: rest) =
      front ++ ds.foldl (fun b d => f d b) b :: rest := by
  induction ds generalizing b with
  | nil => rfl
  | cons d ds ih =>
    rw [List.map_cons, List.foldl_cons, List.foldl_cons, ← ih]
    congr 1
    exact List.modifyTailIdx_add (List.modifyHead (f d)) 0 front (b :: rest)

/-- Changes of the entries of a list, one entry after the other. -/
theorem foldl_modify_groups (group : α → List δ) (value : α → β) (front : List β) (as : List α) :
    ((as.zipIdx front.length).flatMap fun a => (group a.1).map (a.2, ·)).foldl
        (fun bs e => bs.modify e.1 (f e.2)) (front ++ as.map value) =
      front ++ as.map fun a => (group a).foldl (fun b d => f d b) (value a) := by
  induction as generalizing front with
  | nil => rfl
  | cons a as ih =>
    rw [List.zipIdx_cons, List.flatMap_cons, List.foldl_append, List.map_cons, foldl_modify_group]
    have hfront := ih (front ++ [(group a).foldl (fun b d => f d b) (value a)])
    rw [List.length_append, List.length_singleton, List.append_assoc, List.append_assoc] at hfront
    exact hfront

end Groups

theorem mapped_eq (h : session.Reached past joysticks) (key : String) :
    joysticks.mapped session.lower key = (session.sticks.zipIdx 0).flatMap fun entry =>
      (entry.1.directions session.lower key).map (entry.2, ·) := by
  rw [JoystickRuntime.mapped, h.keyMap, keyEntries, List.filterMap_flatMap]
  refine List.flatMap_congr fun entry _ => ?_
  simp only [JoystickRuntime.entries, Stick.directions, Stick.keys, List.filterMap_cons,
    List.filterMap_nil]
  split_ifs <;> rfl

theorem foldl_setKey (isPressed : Bool) (entries : List (ℕ × JoystickDirection))
    (runtime : JoystickRuntime) :
    (entries.foldl (JoystickRuntime.setKey isPressed now) runtime).bindings =
        entries.foldl (fun bs e => bs.modify e.1 fun binding => binding.setKey e.2 isPressed now)
          runtime.bindings ∧
      (entries.foldl (JoystickRuntime.setKey isPressed now) runtime).keyMap = runtime.keyMap := by
  induction entries generalizing runtime with
  | nil => exact ⟨rfl, rfl⟩
  | cons entry entries ih => exact ih _

theorem Stick.after_keys {stick : Stick} (isPressed : Bool) (directions : List JoystickDirection)
    (steps : List StickStep) :
    directions.foldl (fun binding direction => binding.setKey direction isPressed now)
        (stick.after steps) = stick.after (keySteps directions isPressed now steps) := by
  induction directions generalizing steps with
  | nil => rfl
  | cons direction directions ih =>
    rw [List.foldl_cons, Stick.after_key]
    exact ih _

theorem mapped_eq_nil_iff (h : session.Reached past joysticks) (key : String) :
    joysticks.mapped session.lower key = [] ↔ session.moves key = false := by
  rw [mapped_eq h, List.flatMap_eq_nil_iff, Session.moves, List.any_eq_false]
  constructor
  · intro hall stick hstick
    obtain ⟨i, hi, rfl⟩ := List.mem_iff_getElem.mp hstick
    have hmem : (session.sticks[i], i) ∈ session.sticks.zipIdx 0 :=
      List.mem_zipIdx_iff_getElem?.mpr (List.getElem?_eq_getElem hi)
    have hnone := List.map_eq_nil_iff.mp (hall _ hmem)
    simp [hnone]
  · intro hall entry hentry
    have hnone := hall entry.1 (List.fst_mem_of_mem_zipIdx hentry)
    simp only [ne_eq, decide_not, Bool.not_eq_true', decide_eq_false_iff_not, not_not] at hnone
    rw [hnone, List.map_nil]

/-- A key that moves no joystick changes no past. -/
theorem Stick.past_of_not_moves {key : String} {event : KeyEvent} {stick : Stick}
    (hname : keyEventName event.code = some key) (hmoves : session.moves key = false)
    (hstick : stick ∈ session.sticks) (now : ℕ) :
    stick.past session.lower (.key event now :: past) = stick.past session.lower past := by
  have hnone := List.any_eq_false.mp hmoves stick hstick
  simp only [ne_eq, decide_not, Bool.not_eq_true', decide_eq_false_iff_not, not_not] at hnone
  rw [Stick.past, Stick.pushes, hname]
  simp only [hnone]
  rfl

/-- **A key that moves joysticks** moves each as its own keys say. -/
theorem handleKeyEvent_some (h : session.Reached past joysticks) {event : KeyEvent} {key : String}
    {later : JoystickRuntime} (hname : keyEventName event.code = some key)
    (hanswer : joysticks.handleKeyEvent session.lower key event.kind now = some later) :
    session.moves key = true ∧ session.Reached (.key event now :: past) later := by
  rw [JoystickRuntime.handleKeyEvent] at hanswer
  split at hanswer
  case h_1 => cases hanswer
  case h_2 entries hsome =>
  obtain rfl := Option.some.inj hanswer
  have hmoves : session.moves key = true := by
    by_contra hfalse
    exact hsome ((mapped_eq_nil_iff h key).mpr (Bool.eq_false_iff.mpr hfalse))
  obtain ⟨hbindings, hkeyMap⟩ := @foldl_setKey now (event.kind != .release)
    (joysticks.mapped session.lower key) joysticks
  refine ⟨hmoves, ?_, hkeyMap.trans h.keyMap⟩
  have hgroups := foldl_modify_groups
    (fun direction (binding : JoystickBindingRuntime) =>
      binding.setKey direction (event.kind != .release) now)
    (fun stick : Stick => stick.directions session.lower key)
    (fun stick => stick.after (stick.past session.lower past)) [] session.sticks
  rw [hbindings, mapped_eq h, h.bindings]
  refine hgroups.trans ?_
  rw [List.nil_append]
  refine List.map_congr_left fun stick _ => ?_
  rw [Stick.after_keys, Stick.past, Stick.pushes, hname]

/-- **A key that moves none** leaves them as they are. -/
theorem handleKeyEvent_none (h : session.Reached past joysticks) {event : KeyEvent} {key : String}
    (hname : keyEventName event.code = some key)
    (hanswer : joysticks.handleKeyEvent session.lower key event.kind now = none) :
    session.moves key = false ∧ session.Reached (.key event now :: past) joysticks := by
  rw [JoystickRuntime.handleKeyEvent] at hanswer
  split at hanswer
  case h_2 => cases hanswer
  case h_1 hnil =>
  have hmoves := (mapped_eq_nil_iff h key).mp hnil
  refine ⟨hmoves, ?_, h.keyMap⟩
  rw [h.bindings]
  refine List.map_congr_left fun stick hstick => ?_
  rw [Stick.past_of_not_moves hname hmoves hstick]

theorem dueSwipes_bindings (joysticks : JoystickRuntime) (now : ℕ) :
    (joysticks.dueSwipes now).1.bindings =
      joysticks.bindings.map fun binding => (binding.dueSwipe now).1 := rfl

theorem dueSwipes_snd (joysticks : JoystickRuntime) (now : ℕ) :
    (joysticks.dueSwipes now).2 =
      joysticks.bindings.flatMap fun binding => (binding.dueSwipe now).2 := rfl

/-- **The swipes of a turn** are those that are due. -/
theorem dueSwipes_spec (h : session.Reached past joysticks) (htimed : session.Timed clock past)
    (hnow : clock ≤ now) :
    session.Reached (.swipes now :: past) (joysticks.dueSwipes now).1 ∧
      (joysticks.dueSwipes now).2 = session.expected past (.swipes now) := by
  have hpoll : ∀ stick ∈ session.sticks,
      (stick.after (stick.past session.lower past)).dueSwipe now =
        (stick.after (stick.past session.lower (.swipes now :: past)),
          stick.swipes (stick.past session.lower past) now) :=
    fun stick hstick => Stick.after_poll (htimed stick hstick) hnow
  refine ⟨⟨?_, h.keyMap⟩, ?_⟩
  · rw [dueSwipes_bindings, h.bindings, List.map_map]
    refine List.map_congr_left fun stick hstick => ?_
    rw [Function.comp_apply, hpoll stick hstick]
  · rw [dueSwipes_snd, h.bindings, List.flatMap_map, Session.expected]
    refine List.flatMap_congr fun stick hstick => ?_
    rw [hpoll stick hstick]

/-! ### Runs -/

theorem execute_spec (s : Keymapper) (gestures : List Gesture) :
    wp (runAll (execute session) gestures)
      (fun _ t => t.joysticks = s.joysticks ∧ t.sent = s.sent ++ gestures)
      (fun e t => (∃ message, e = .failed message) ∧ ∃ sent, sent <+: gestures ∧
        t.sent = s.sent ++ sent) s := by
  induction gestures generalizing s with
  | nil => exact ⟨rfl, (List.append_nil _).symm⟩
  | cons gesture gestures ih =>
    simp only [runAll, execute, wp_bind, wp_get, wp_modify, wp_ite, wp_pure, wp_throw]
    split
    · refine wp_mono (ih _) ?_ ?_
      · rintro _ t ⟨hjoysticks, hsent⟩
        exact ⟨hjoysticks, by rw [hsent, List.append_assoc, List.singleton_append]⟩
      · rintro e t ⟨he, sent, hprefix, hsent⟩
        refine ⟨he, gesture :: sent, List.cons_prefix_cons.mpr ⟨rfl, hprefix⟩, ?_⟩
        rw [hsent, List.append_assoc, List.singleton_append]
    · exact ⟨⟨_, rfl⟩, [gesture], List.cons_prefix_cons.mpr ⟨rfl, List.nil_prefix⟩, rfl⟩

/-- The state of the loop after the steps of the past, which has sent what was expected. -/
structure Sent (session : Session) (clock : ℕ) (past : List LoopStep) (sent : List Gesture)
    (s : Keymapper) : Prop where
  reached : session.Reached past s.joysticks
  timed : session.Timed clock past
  sent : s.sent = sent

/-- **A step sends what is expected of it**, or as much of it as the backend takes. -/
theorem step_sends {sent : List Gesture} {s : Keymapper} (h : Sent session clock past sent s)
    (loopStep : LoopStep) (hclock : clock ≤ loopStep.time.getD clock) :
    wp (step session loopStep)
      (fun _ t => Sent session (loopStep.time.getD clock) (loopStep :: past)
        (sent ++ session.expected past loopStep) t)
      (fun _ t => ∃ more, more <+: session.expected past loopStep ∧ t.sent = sent ++ more) s := by
  have htimed := h.timed.step loopStep hclock
  cases loopStep with
  | failed message => exact ⟨[], List.nil_prefix, by rw [List.append_nil, h.sent]⟩
  | swipes now =>
    have hle : clock ≤ now := hclock
    obtain ⟨hreached, hswipes⟩ := dueSwipes_spec h.reached h.timed hle
    simp only [step, sendSwipes, wp_bind, wp_get]
    cases hdue : s.joysticks.dueSwipes now with
    | mk joysticks swipes =>
      rw [hdue] at hreached hswipes
      simp only [wp_modify]
      refine wp_mono (execute_spec _ swipes) ?_ ?_
      · rintro _ t ⟨hjoysticks, hsent⟩
        exact ⟨hjoysticks ▸ hreached, htimed, by rw [hsent, h.sent, ← hswipes]⟩
      · rintro _ t ⟨-, more, hprefix, hsent⟩
        exact ⟨more, hswipes ▸ hprefix, by rw [hsent, h.sent]⟩
  | key event now =>
    simp only [step, handleKey, wp_bind, wp_ite, wp_throw]
    split
    · exact ⟨[], List.nil_prefix, by rw [List.append_nil, h.sent]⟩
    next hstay =>
    cases hname : keyEventName event.code with
    | none =>
      refine ⟨⟨?_, h.reached.keyMap⟩, htimed, ?_⟩
      · rw [h.reached.bindings]
        refine List.map_congr_left fun stick _ => ?_
        rw [Stick.past, Stick.pushes, hname]
        rfl
      · rw [Session.expected, hname, List.append_nil, h.sent]
    | some key =>
      simp only [wp_bind, wp_get]
      cases hanswer : s.joysticks.handleKeyEvent session.lower key event.kind now with
      | some joysticks =>
        obtain ⟨hmoves, hreached⟩ := handleKeyEvent_some h.reached hname hanswer
        have hnothing : session.expected past (.key event now) = [] := by
          rw [Session.expected, hname]
          exact if_pos (.inr (.inl hmoves))
        rw [hnothing, List.append_nil]
        exact ⟨hreached, htimed, h.sent⟩
      | none =>
        obtain ⟨hmoves, hreached⟩ := handleKeyEvent_none h.reached hname hanswer
        simp only [ne_eq, wp_ite, ite_not, wp_pure]
        split
        · next hrelease =>
          have hnothing : session.expected past (.key event now) = [] := by
            rw [Session.expected, hname]
            exact if_pos (.inr (.inr hrelease))
          rw [hnothing, List.append_nil]
          exact ⟨hreached, htimed, h.sent⟩
        · next hpress =>
          have hquiet : ¬ (shouldExitKey event ∨ session.moves key ∨ event.kind = .release) := by
            simp [hstay, hmoves, hpress]
          rw [Session.expected, hname]
          simp only [if_neg hquiet]
          cases resolveKeyBinding session.lower session.profile.bindings key with
          | none => exact ⟨hreached, htimed, by rw [List.append_nil]; exact h.sent⟩
          | some binding =>
            refine wp_mono (execute_spec _ _) ?_ ?_
            · rintro _ t ⟨hjoysticks, hsent⟩
              exact ⟨hjoysticks ▸ hreached, htimed, by rw [hsent, h.sent]⟩
            · rintro _ t ⟨-, more, hprefix, hsent⟩
              exact ⟨more, hprefix, by rw [hsent, h.sent]⟩

theorem run_sends {sent : List Gesture} {s : Keymapper} (h : Sent session clock past sent s)
    (steps : List LoopStep) (hclock : Chronological clock steps) :
    wp (runAll (step session) steps)
      (fun _ t => Sent session (clockAfter clock steps) (steps.reverse ++ past)
        (sent ++ session.expectedRun past steps) t)
      (fun _ t => ∃ more, more <+: session.expectedRun past steps ∧ t.sent = sent ++ more) s := by
  induction steps generalizing clock past sent s with
  | nil =>
    have hnothing : sent ++ session.expectedRun past [] = sent := List.append_nil _
    rw [hnothing]
    exact h
  | cons loopStep steps ih =>
    rw [runAll, wp_bind]
    refine wp_mono (step_sends h loopStep hclock.1) ?_ ?_
    · intro _ t ht
      refine wp_mono (ih ht hclock.2) ?_ ?_
      · intro _ u hu
        rw [List.reverse_cons, List.append_assoc, Session.expectedRun, ← List.append_assoc sent]
        exact hu
      · rintro _ u ⟨more, hprefix, hsent⟩
        refine ⟨session.expected past loopStep ++ more, ?_, by rw [hsent, List.append_assoc]⟩
        exact (List.prefix_append_right_inj _).mpr hprefix
    · rintro _ t ⟨more, hprefix, hsent⟩
      exact ⟨more, hprefix.trans (List.prefix_append _ _), hsent⟩

theorem sent_start : Sent session 0 [] [] (start session) := ⟨reached_start, fun _ _ => trivial, rfl⟩

/-- **What every run sends.**  If the clock does not go back, a run of the keymapper sends what its
steps are expected to send, in that order: each joystick swipes to where it is pushed, at once and
then each tick until it is let go; every other key sends what its first binding says.  A run that
ends early has sent a beginning of that. -/
theorem keymapper_sends_what_is_expected (session : Session) (turns : List LoopTurn)
    (hclock : Chronological 0 (turns.flatMap LoopTurn.steps)) :
    wp (startInteractiveKeymapper session turns)
      (fun _ t => t.sent = session.expectedRun [] (turns.flatMap LoopTurn.steps))
      (fun _ t => t.sent <+: session.expectedRun [] (turns.flatMap LoopTurn.steps))
      (start session) := by
  refine wp_mono (run_sends sent_start _ hclock) ?_ ?_
  · intro _ t ht
    rw [ht.sent, List.nil_append]
  · rintro _ t ⟨more, hprefix, hsent⟩
    rw [hsent, List.nil_append]
    exact hprefix

/-- The profile of a test of the source: one joystick, on `w`, `a`, `s` and `d`. -/
def movement : ControlProfile where
  name := "Joystick Profile"
  packageName := "com.example.joystick"
  resolution := ⟨1280, 720⟩
  bindings := [⟨"movement", .keyCluster "w" "a" "s" "d", .virtualJoystick ⟨320, 640⟩ 120 80 70⟩]

def movementSession : Session := ⟨asciiLower, movement, fun _ _ => true⟩

/-- `W` is pressed and held for 80 ms. -/
def movementTurns : List LoopTurn :=
  [⟨.key ⟨.char 'W', false, .press⟩ 0, 0⟩, ⟨.nothing, 79000000⟩, ⟨.nothing, 80000000⟩]

theorem movement_sends_what_is_expected :
    wp (startInteractiveKeymapper movementSession movementTurns)
      (fun _ t => t.sent = movementSession.expectedRun [] (movementTurns.flatMap LoopTurn.steps))
      (fun _ t => t.sent <+: movementSession.expectedRun [] (movementTurns.flatMap LoopTurn.steps))
      (start movementSession) :=
  keymapper_sends_what_is_expected movementSession movementTurns
    (by simp [movementTurns, LoopTurn.steps, Received.steps, Chronological, LoopStep.time])

example : movementSession.expectedRun [] (movementTurns.flatMap LoopTurn.steps) =
    [.swipe ⟨320, 640⟩ ⟨320, 520⟩ 70, .swipe ⟨320, 640⟩ ⟨320, 520⟩ 70] := by decide +kernel

/-! ### The wait of the loop -/

theorem mem_nextTicks (h : session.Reached past joysticks) (now : ℕ) {wait : ℕ} :
    (wait ∈ joysticks.bindings.filterMap fun binding => binding.nextTick.map (· - now)) ↔
      ∃ stick ∈ session.sticks, ∃ time,
        Repeater.next stick.period (stick.pacing (stick.past session.lower past)) = some time ∧
          time - now = wait := by
  rw [h.bindings, List.mem_filterMap]
  constructor
  · rintro ⟨binding, hmem, hwait⟩
    obtain ⟨stick, hstick, rfl⟩ := List.mem_map.mp hmem
    obtain ⟨time, hnext, rfl⟩ := Option.map_eq_some_iff.mp hwait
    exact ⟨stick, hstick, time, hnext, rfl⟩
  · rintro ⟨stick, hstick, time, hnext, rfl⟩
    exact ⟨_, List.mem_map.mpr ⟨stick, hstick, rfl⟩, Option.map_eq_some_iff.mpr ⟨time, hnext, rfl⟩⟩

/-- **The timeout** reaches to the first time at which a joystick is due, or is the idle one. -/
theorem pollTimeout_spec (h : session.Reached past joysticks) (htimed : session.Timed clock past)
    (hnow : clock ≤ now) (idle : ℕ) :
    joysticks.pollTimeout now idle ≤ idle ∧
      (∀ stick ∈ session.sticks, ∀ time, now ≤ time → time < now + joysticks.pollTimeout now idle →
        ¬ stick.Due (stick.past session.lower past) time) ∧
      (joysticks.pollTimeout now idle < idle → ∃ stick ∈ session.sticks,
        stick.Due (stick.past session.lower past) (now + joysticks.pollTimeout now idle)) := by
  have hdue : ∀ stick ∈ session.sticks, ∀ time,
      Repeater.next stick.period (stick.pacing (stick.past session.lower past)) = some time →
      ∀ later, now ≤ later → (time ≤ later ↔ stick.Due (stick.past session.lower past) later) :=
    fun stick hstick time hnext later hlater =>
      Repeater.le_iff_due (htimed stick hstick) hnext (hnow.trans hlater)
  have hnone : ∀ stick : Stick, ∀ time,
      Repeater.next stick.period (stick.pacing (stick.past session.lower past)) = none →
      ¬ stick.Due (stick.past session.lower past) time :=
    fun stick time hnext hdue =>
      Bool.false_ne_true ((Repeater.next_eq_none_iff.mp hnext).symm.trans hdue.1)
  unfold JoystickRuntime.pollTimeout
  cases hmin : (joysticks.bindings.filterMap fun binding => binding.nextTick.map (· - now)).min? with
  | none =>
    have hidle := List.min?_eq_none_iff.mp hmin
    refine ⟨le_rfl, ?_, fun hlt => absurd hlt (lt_irrefl _)⟩
    intro stick hstick time _ _
    cases hnext : Repeater.next stick.period (stick.pacing (stick.past session.lower past)) with
    | none => exact hnone stick time hnext
    | some next =>
      have hmem := (mem_nextTicks h now).mpr ⟨stick, hstick, next, hnext, rfl⟩
      rw [hidle] at hmem
      cases hmem
  | some wait =>
    dsimp only
    obtain ⟨hmem, hleast⟩ := List.min?_eq_some_iff.mp hmin
    refine ⟨min_le_right _ _, ?_, ?_⟩
    · intro stick hstick time hle hlt hswipe
      cases hnext : Repeater.next stick.period (stick.pacing (stick.past session.lower past)) with
      | none => exact hnone stick time hnext hswipe
      | some next =>
        have hwait := hleast _ ((mem_nextTicks h now).mpr ⟨stick, hstick, next, hnext, rfl⟩)
        have hreached := (hdue stick hstick next hnext time hle).mpr hswipe
        have hbound : min wait idle ≤ wait := min_le_left _ _
        omega
    · intro hlt
      obtain ⟨stick, hstick, next, hnext, hwait⟩ := (mem_nextTicks h now).mp hmem
      have hmineq : min wait idle = wait := by omega
      refine ⟨stick, hstick, (hdue stick hstick next hnext _ (Nat.le_add_right _ _)).mp ?_⟩
      rw [hmineq]
      omega

/-- **The wait of the loop.**  After a run whose clock does not go back the loop waits no longer
than its idle interval, no joystick is due before the wait is over, and when it waits for less than
the idle interval one is due at its end. -/
theorem loop_wakes_when_a_swipe_is_due (session : Session) (turns : List LoopTurn)
    (hclock : Chronological 0 (turns.flatMap LoopTurn.steps)) (idle : ℕ) :
    wp (startInteractiveKeymapper session turns)
      (fun _ t => ∀ now, clockAfter 0 (turns.flatMap LoopTurn.steps) ≤ now →
        t.joysticks.pollTimeout now idle ≤ idle ∧
        (∀ stick ∈ session.sticks, ∀ time, now ≤ time → time < now + t.joysticks.pollTimeout now idle →
          ¬ stick.Due (stick.past session.lower (turns.flatMap LoopTurn.steps).reverse) time) ∧
        (t.joysticks.pollTimeout now idle < idle → ∃ stick ∈ session.sticks,
          stick.Due (stick.past session.lower (turns.flatMap LoopTurn.steps).reverse)
            (now + t.joysticks.pollTimeout now idle)))
      (fun _ _ => True) (start session) := by
  refine wp_mono (run_sends sent_start _ hclock) ?_ fun _ _ _ => trivial
  intro _ t ht now hnow
  have hreached := ht.reached
  have htimed := ht.timed
  rw [List.append_nil] at hreached htimed
  exact pollTimeout_spec hreached htimed hnow idle

theorem movement_loop_wakes_when_a_swipe_is_due :
    wp (startInteractiveKeymapper movementSession movementTurns)
      (fun _ t => ∀ now, clockAfter 0 (movementTurns.flatMap LoopTurn.steps) ≤ now →
        t.joysticks.pollTimeout now 50000000 ≤ 50000000 ∧
        (∀ stick ∈ movementSession.sticks, ∀ time, now ≤ time →
          time < now + t.joysticks.pollTimeout now 50000000 →
          ¬ stick.Due
            (stick.past movementSession.lower (movementTurns.flatMap LoopTurn.steps).reverse) time) ∧
        (t.joysticks.pollTimeout now 50000000 < 50000000 → ∃ stick ∈ movementSession.sticks,
          stick.Due
            (stick.past movementSession.lower (movementTurns.flatMap LoopTurn.steps).reverse)
            (now + t.joysticks.pollTimeout now 50000000)))
      (fun _ _ => True) (start movementSession) :=
  loop_wakes_when_a_swipe_is_due movementSession movementTurns
    (by simp [movementTurns, LoopTurn.steps, Received.steps, Chronological, LoopStep.time]) 50000000

end Interactive

end Wroid
