import Wroid.Lib.Preserves

/-!
# Computations that watch for overflow

In a build with overflow checks an operation whose result does not fit its type halts the
program.  This file puts such operations into the computations of `Lib.Fallible`, next to the
failures these have anyway, and says when a computation does not halt.

## Main definitions

* `Halt ε` — how a watched computation stops early: an overflow, or a failure `ε`.
* `guarded o`, `unguarded m` — an operation that is watched, and a computation that is not.
* `InRange m s` — started in `s`, the computation `m` does not overflow.
* `Guards m n` — `m` is `n` with operations watched: where it does not overflow, it does the same.

## Main results

* `inRange_guarded_bind` and the others — one rule for each way to put computations together.
* `Guards.attempt` — failures may be ignored, overflows may not.
* `allSteps_congr` — conditions that agree on the states with an invariant.
* `runAll_inRange_iff` — **a watched run does not overflow exactly if no step of the run does**.
-/

namespace Wroid.Lib

variable {ε ε' σ τ α β ι : Type}

/-- How a watched computation stops early. -/
inductive Halt (ε : Type)
  | overflow
  | failed (error : ε)
  deriving DecidableEq, Repr

/-- The value of a watched operation. -/
def guarded : Option α → EStateM (Halt ε) σ α
  | some a => pure a
  | none => throw .overflow

/-- A computation without operations to watch. -/
def unguarded (m : EStateM ε σ α) : EStateM (Halt ε) σ α := mapError .failed m

/-- Started in `s`, the computation does not overflow. -/
def InRange (m : EStateM (Halt ε) σ α) (s : σ) : Prop := ∀ t, m s ≠ .error .overflow t

/-! ### When nothing overflows -/

section InRange

variable {s : σ}

@[simp] theorem inRange_pure (a : α) : InRange (pure a : EStateM (Halt ε) σ α) s := nofun

@[simp] theorem inRange_guarded {o : Option α} :
    InRange (guarded o : EStateM (Halt ε) σ α) s ↔ o.isSome = true := by
  cases o with
  | none => exact ⟨fun h => (h s rfl).elim, nofun⟩
  | some a => exact ⟨fun _ => rfl, fun _ => nofun⟩

@[simp] theorem inRange_unguarded (m : EStateM ε σ α) : InRange (unguarded m) s := by
  intro t
  unfold unguarded mapError
  cases m s <;> nofun

@[simp] theorem inRange_get_bind {f : σ → EStateM (Halt ε) σ α} :
    InRange (get >>= f) s ↔ InRange (f s) s := Iff.rfl

@[simp] theorem inRange_guarded_bind {o : Option β} {f : β → EStateM (Halt ε) σ α} :
    InRange (guarded o >>= f) s ↔ ∃ b, o = some b ∧ InRange (f b) s := by
  cases o with
  | none => exact ⟨fun h => (h s rfl).elim, nofun⟩
  | some b => exact ⟨fun h => ⟨b, rfl, h⟩, fun ⟨_, hb, h⟩ => Option.some.inj hb ▸ h⟩

/-- What comes after a watched computation matters if it returns. -/
theorem inRange_bind {m : EStateM (Halt ε) σ β} {f : β → EStateM (Halt ε) σ α} :
    InRange (m >>= f) s ↔ InRange m s ∧ ∀ b t, m s = .ok b t → InRange (f b) t := by
  unfold InRange
  simp only [bind, EStateM.bind]
  cases m s with
  | ok b t =>
    refine ⟨fun h => ⟨fun _ => nofun, fun b' t' hok => ?_⟩, fun h => h.2 b t rfl⟩
    obtain ⟨rfl, rfl⟩ := EStateM.Result.ok.inj hok
    exact h
  | error e t =>
    refine ⟨fun h => ⟨fun t' ht => h t' ?_, fun _ _ => nofun⟩, fun h t' ht => h.1 t' ?_⟩
    · cases ht
      rfl
    · cases ht
      rfl

@[simp] theorem inRange_unguarded_bind {m : EStateM ε σ β} {f : β → EStateM (Halt ε) σ α} :
    InRange (unguarded m >>= f) s ↔ ∀ b t, m s = .ok b t → InRange (f b) t := by
  rw [inRange_bind, and_iff_right (inRange_unguarded m)]
  unfold unguarded mapError
  cases m s with
  | ok b t => simp only [EStateM.Result.ok.injEq]
  | error e t => exact ⟨fun _ _ _ => nofun, fun _ _ _ => nofun⟩

@[simp] theorem inRange_map {m : EStateM (Halt ε) σ β} {f : β → α} :
    InRange (f <$> m) s ↔ InRange m s := by
  rw [map_eq_pure_bind, inRange_bind, and_iff_left fun b t _ => inRange_pure (f b)]

end InRange

/-! ### Watched versions -/

/-- Where `m` does not overflow it does what `n` does. -/
def Guards (m : EStateM (Halt ε) σ α) (n : EStateM ε σ α) : Prop :=
  ∀ s, InRange m s → m s = unguarded n s

section Guards

variable {m : EStateM (Halt ε) σ α} {n : EStateM ε σ α}

theorem guards_pure (a : α) : Guards (pure a : EStateM (Halt ε) σ α) (pure a) := fun _ _ => rfl

theorem guards_unguarded (n : EStateM ε σ α) : Guards (unguarded n) n := fun _ _ => rfl

theorem Guards.bind {m : EStateM (Halt ε) σ β} {n : EStateM ε σ β} {f : β → EStateM (Halt ε) σ α}
    {g : β → EStateM ε σ α} (hm : Guards m n) (hf : ∀ b, Guards (f b) (g b)) :
    Guards (m >>= f) (n >>= g) := by
  intro s hs
  have hsm : InRange m s := by
    intro t ht
    refine hs t ?_
    simp only [Bind.bind, EStateM.bind, ht]
  have hm := hm s hsm
  unfold InRange at hs
  unfold unguarded mapError at hm ⊢
  simp only [Bind.bind, EStateM.bind] at hs ⊢
  cases hn : n s with
  | error e t => simp only [hm, hn]
  | ok b t =>
    simp only [hm, hn] at hs ⊢
    exact hf b t hs

theorem Guards.map {m : EStateM (Halt ε) σ β} {n : EStateM ε σ β} (h : Guards m n) (f : β → α) :
    Guards (f <$> m) (f <$> n) := by
  rw [map_eq_pure_bind, map_eq_pure_bind]
  exact h.bind fun _ => guards_pure _

/-- Both read the same state. -/
theorem Guards.read {f : σ → EStateM (Halt ε) σ α} {g : σ → EStateM ε σ α}
    (h : ∀ s, Guards (f s) (g s)) : Guards (get >>= f) (get >>= g) := fun s hs => h s s hs

theorem Guards.ite {c : Prop} [Decidable c] {m' : EStateM (Halt ε) σ α} {n' : EStateM ε σ α}
    (h : Guards m n) (h' : Guards m' n') :
    Guards (if c then m else m') (if c then n else n') := by
  split
  · exact h
  · exact h'

/-- A watched operation gives the value the other computation goes on with. -/
theorem Guards.guarded {o : Option β} {f : β → EStateM (Halt ε) σ α}
    (h : ∀ b, o = some b → Guards (f b) n) : Guards (guarded o >>= f) n := by
  intro s hs
  obtain ⟨b, rfl, hb⟩ := inRange_guarded_bind.mp hs
  exact h b rfl s hb

/-- A failure is ignored, an overflow is not. -/
def attemptWatched (m : EStateM (Halt ε) σ α) : EStateM (Halt ε') σ (Except ε α) := fun s =>
  match m s with
  | .ok a t => .ok (.ok a) t
  | .error (.failed e) t => .ok (.error e) t
  | .error .overflow t => .error .overflow t

theorem inRange_attemptWatched {s : σ} :
    InRange (attemptWatched m : EStateM (Halt ε') σ (Except ε α)) s ↔ InRange m s := by
  unfold InRange attemptWatched
  cases m s with
  | ok a t => exact ⟨fun _ => nofun, fun _ => nofun⟩
  | error e t =>
    cases e with
    | overflow => exact ⟨fun h => (h t rfl).elim, fun h => (h t rfl).elim⟩
    | failed e => exact ⟨fun _ => nofun, fun _ => nofun⟩

theorem Guards.attempt (h : Guards m n) :
    Guards (attemptWatched m : EStateM (Halt ε') σ (Except ε α)) (Lib.attempt n) := by
  intro s hs
  have hm := h s (inRange_attemptWatched.mp hs)
  unfold attemptWatched Lib.attempt unguarded mapError
  unfold unguarded mapError at hm
  cases hn : n s <;> simp only [hm, hn]

end Guards

/-! ### Watched runs -/

section Runs

variable {step : ι → EStateM (Halt ε) σ Unit} {plain : ι → EStateM ε σ Unit}

theorem Guards.runAll (h : ∀ i, Guards (step i) (plain i)) (is : List ι) :
    Guards (runAll step is) (Lib.runAll plain is) := by
  induction is with
  | nil => exact guards_pure ()
  | cons i is ih => exact .bind (h i) fun _ => ih

/-- A run goes on from where its first part ends. -/
theorem runAll_append {is js : List ι} {s t : σ} (h : Lib.runAll plain is s = .ok () t) :
    Lib.runAll plain (is ++ js) s = Lib.runAll plain js t := by
  induction is generalizing s with
  | nil =>
    obtain ⟨-, rfl⟩ := EStateM.Result.ok.inj h
    rfl
  | cons i is ih =>
    rw [Lib.runAll] at h
    rw [List.cons_append, Lib.runAll]
    simp only [bind, EStateM.bind] at h ⊢
    cases hm : plain i s with
    | ok u s' =>
      rw [hm] at h
      exact ih h
    | error e s' =>
      rw [hm] at h
      cases h

/-- What a step has to meet may be said in another way where the invariant holds. -/
theorem allSteps_congr {step : ι → EStateM ε σ Unit} {P Q : σ → ι → Prop} {Inv : σ → Prop}
    (hstep : ∀ i, Preserves Inv (step i)) (h : ∀ s i, Inv s → (P s i ↔ Q s i)) {is : List ι} {s : σ}
    (hs : Inv s) : AllSteps step P is s ↔ AllSteps step Q is s := by
  induction is generalizing s with
  | nil => exact Iff.rfl
  | cons i is ih =>
    have hkept := hstep i s hs
    unfold wp at hkept
    rw [AllSteps, AllSteps, h s i hs]
    refine and_congr_right fun _ => ?_
    cases hm : step i s with
    | ok u t =>
      rw [hm] at hkept
      exact ih hkept
    | error e t => exact Iff.rfl

/-- **A watched run does not overflow exactly if no step of the run does.** -/
theorem runAll_inRange_iff (h : ∀ i, Guards (step i) (plain i)) {is : List ι} {s : σ} :
    InRange (runAll step is) s ↔ AllSteps plain (fun t i => InRange (step i) t) is s := by
  induction is generalizing s with
  | nil => exact ⟨fun _ => trivial, fun _ _ hoverflow => by cases hoverflow⟩
  | cons i is ih =>
    rw [runAll, AllSteps]
    by_cases hi : InRange (step i) s
    · have hsame := h i s hi
      rw [and_iff_right hi]
      unfold InRange unguarded mapError at *
      simp only [bind, EStateM.bind, hsame]
      cases plain i s with
      | ok _ t => exact ih
      | error e t => exact ⟨fun _ => trivial, fun _ _ hoverflow => by cases hoverflow⟩
    · refine iff_of_false (fun hrun => hi fun t ht => hrun t ?_) fun hall => hi hall.1
      simp only [bind, EStateM.bind, ht]

end Runs

end Wroid.Lib
