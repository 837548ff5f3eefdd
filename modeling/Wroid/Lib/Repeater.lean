import Mathlib

/-!
# Something repeated while it is engaged

A repeater acts when it is polled: at once after it has been engaged, then whenever a period has
gone by, until it is disengaged.  It knows one thing, the time at which the next action is due.

What it does is said without that time.  The past is a list with the latest step first, and a
repeater that is engaged acts when every action since it was last disengaged is a period old.

## Main definitions

* `Repeater.step` — the repeater, with the time that is due as its only state.
* `Repeater.Engaged`, `Repeater.actions` — what the past says.
* `Repeater.due` — when it is to act, by the past.

## Main results

* `next_eq_none_iff` — nothing is due exactly while it is not engaged.
* `le_iff_due` — **it acts when the past says so**, if the clock does not go back.
* `next_le` — an action is due at most a period after the latest one.
-/

namespace Wroid.Lib

namespace Repeater

/-- What happens to a repeater.  Engaging what is engaged changes nothing. -/
inductive Step
  | engage (now : ℕ)
  | disengage
  | poll (now : ℕ)
  deriving DecidableEq, Repr

/-- The time that is due after a step. -/
def step (period : ℕ) (next : Option ℕ) : Step → Option ℕ
  | .engage now => some (next.getD now)
  | .disengage => none
  | .poll now => next.map fun time => if time ≤ now then now + period else time

/-- The time that is due after the steps of the past, the latest of them first. -/
def next (period : ℕ) : List Step → Option ℕ
  | [] => none
  | latest :: past => step period (next period past) latest

/-- It has been engaged, and not disengaged since. -/
def Engaged : List Step → Bool
  | [] => false
  | .engage _ :: _ => true
  | .disengage :: _ => false
  | .poll _ :: past => Engaged past

/-- The times at which it acted since it was last disengaged, the latest first. -/
def actions (period : ℕ) : List Step → List ℕ
  | [] => []
  | .engage _ :: past => actions period past
  | .disengage :: _ => []
  | .poll now :: past =>
    if Engaged past ∧ ∀ time ∈ actions period past, time + period ≤ now then
      now :: actions period past
    else actions period past

/-- Whether it is to act when it is polled. -/
def due (period : ℕ) (past : List Step) (now : ℕ) : Prop :=
  Engaged past ∧ ∀ time ∈ actions period past, time + period ≤ now

instance (period : ℕ) (past : List Step) (now : ℕ) : Decidable (due period past now) :=
  inferInstanceAs (Decidable (_ ∧ _))

/-- The reading of the clock in a step that reads it. -/
def Step.time : Step → Option ℕ
  | .engage now => some now
  | .disengage => none
  | .poll now => some now

/-- The clock does not go back in the past, and has not passed `clock`. -/
def Before (clock : ℕ) : List Step → Prop
  | [] => True
  | latest :: past => latest.time.getD clock ≤ clock ∧ Before (latest.time.getD clock) past

variable {period clock : ℕ} {past : List Step}

theorem actions_poll (now : ℕ) : actions period (.poll now :: past) =
    if due period past now then now :: actions period past else actions period past := rfl

theorem next_isSome (period : ℕ) (past : List Step) : (next period past).isSome = Engaged past := by
  induction past with
  | nil => rfl
  | cons latest past ih =>
    cases latest with
    | engage now => rfl
    | disengage => rfl
    | poll now => exact Option.isSome_map.trans ih

/-- **Nothing is due exactly while it is not engaged.** -/
theorem next_eq_none_iff : next period past = none ↔ Engaged past = false := by
  rw [← next_isSome period past, Option.isSome_eq_false_iff, Option.isNone_iff_eq_none]

theorem Before.mono {later : ℕ} (h : Before clock past) (hle : clock ≤ later) : Before later past := by
  induction past generalizing clock later with
  | nil => trivial
  | cons latest past ih =>
    cases hlatest : latest.time with
    | some now =>
      simp only [Before, hlatest, Option.getD_some] at h ⊢
      exact ⟨h.1.trans hle, h.2⟩
    | none =>
      simp only [Before, hlatest, Option.getD_none] at h ⊢
      exact ⟨le_rfl, ih h.2 hle⟩

/-- What is not engaged has not acted since it was disengaged. -/
theorem actions_of_not_engaged (h : Engaged past = false) : actions period past = [] := by
  induction past with
  | nil => rfl
  | cons latest past ih =>
    cases latest with
    | engage now => cases h
    | disengage => rfl
    | poll now =>
      have hidle : ¬ due period past now := fun hdue => Bool.false_ne_true (h.symm.trans hdue.1)
      rw [actions_poll, if_neg hidle]
      exact ih h

/-- The actions lie in the past. -/
theorem le_of_mem_actions (h : Before clock past) : ∀ time ∈ actions period past, time ≤ clock := by
  induction past generalizing clock with
  | nil =>
    intro time hmem
    cases hmem
  | cons latest past ih =>
    intro time hmem
    cases latest with
    | engage now => exact (ih h.2 time hmem).trans h.1
    | disengage => cases hmem
    | poll now =>
      rw [actions_poll] at hmem
      split at hmem
      · rcases List.mem_cons.mp hmem with rfl | hearlier
        · exact h.1
        · exact (ih h.2 time hearlier).trans h.1
      · exact (ih h.2 time hmem).trans h.1

/-- **It acts when the past says so**: the time it keeps is reached exactly when it is to act. -/
theorem le_iff_due (h : Before clock past) {time : ℕ} (hnext : next period past = some time) {now : ℕ}
    (hnow : clock ≤ now) : time ≤ now ↔ due period past now := by
  induction past generalizing clock time now with
  | nil => cases hnext
  | cons latest past ih =>
    obtain ⟨hlatest, hpast⟩ := h
    cases latest with
    | disengage => cases hnext
    | engage start =>
      obtain rfl := Option.some.inj hnext
      cases hbefore : next period past with
      | some time =>
        have hengaged : Engaged past = true := by
          rw [← next_isSome period past, hbefore]
          rfl
        rw [Option.getD_some, ih hpast hbefore (hlatest.trans hnow)]
        simp only [due, hengaged, Engaged, actions]
      | none =>
        have hidle : Engaged past = false := next_eq_none_iff.mp hbefore
        have hnone : actions period past = [] := actions_of_not_engaged hidle
        refine iff_of_true (hlatest.trans hnow) ⟨rfl, ?_⟩
        intro time hmem
        rw [actions, hnone] at hmem
        cases hmem
    | poll polled =>
      obtain ⟨before, hbefore, rfl⟩ := Option.map_eq_some_iff.mp hnext
      have hengaged : Engaged past = true := by
        rw [← next_isSome period past, hbefore]
        rfl
      have hacted := ih hpast hbefore (le_refl polled)
      split
      case isTrue hle =>
        -- it has acted at `polled`, a period after the actions before
        have hdue := hacted.mp hle
        rw [due, actions_poll, if_pos hdue]
        constructor
        · intro hnow'
          refine ⟨hengaged, ?_⟩
          intro time hmem
          rcases List.mem_cons.mp hmem with rfl | hearlier
          · exact hnow'
          · exact (hdue.2 time hearlier).trans (hlatest.trans hnow)
        · intro hall
          exact hall.2 polled List.mem_cons_self
      case isFalse hlt =>
        have hidle : ¬ due period past polled := fun hdue => hlt (hacted.mpr hdue)
        rw [ih hpast hbefore (hlatest.trans hnow), due, due, actions_poll, if_neg hidle, Engaged]

/-- An action is due at most a period after the latest one, or at once. -/
theorem next_le (h : Before clock past) {time : ℕ} (hnext : next period past = some time) :
    time ≤ clock + period := by
  rw [le_iff_due h hnext (Nat.le_add_right _ _)]
  refine ⟨?_, ?_⟩
  · rw [← next_isSome period past, hnext]
    rfl
  · intro earlier hmem
    exact Nat.add_le_add_right (le_of_mem_actions h earlier hmem) period

/-- Two actions with no disengaging between them are a period apart. -/
theorem actions_apart (period : ℕ) (past : List Step) :
    (actions period past).Pairwise fun later earlier => earlier + period ≤ later := by
  induction past with
  | nil => exact .nil
  | cons latest past ih =>
    cases latest with
    | engage now => exact ih
    | disengage => exact .nil
    | poll now =>
      rw [actions_poll]
      split
      · next hdue => exact .cons hdue.2 ih
      · exact ih

end Repeater

end Wroid.Lib
