import Wroid.Lib.Fallible

/-!
# Computations that keep an invariant

An invariant that holds in every state a computation passes on, whether it returns or fails,
needs no knowledge of results: it is kept piece by piece.

## Main definitions

* `Preserves Inv m` — the computation `m` keeps the invariant `Inv`.

## Main results

* `Preserves.bind`, `Preserves.read`, `Preserves.zoom` and the others — one rule for each way
  to put computations together.
* `preserves_each`, `preserves_runAll` — the rules for loops and runs.
-/

namespace Wroid.Lib

variable {ε ε' σ τ α β : Type}

/-- Started in a state with the invariant, `m` ends in one, whether it returns or fails. -/
def Preserves (Inv : σ → Prop) (m : EStateM ε σ α) : Prop :=
  ∀ s, Inv s → wp m (fun _ t => Inv t) (fun _ t => Inv t) s

variable {Inv : σ → Prop}

theorem preserves_pure (a : α) : Preserves Inv (pure a : EStateM ε σ α) := fun _ h => h

theorem preserves_throw (e : ε) : Preserves Inv (throw e : EStateM ε σ α) := fun _ h => h

theorem preserves_modify {f : σ → σ} (h : ∀ s, Inv s → Inv (f s)) :
    Preserves Inv (modify f : EStateM ε σ PUnit) := h

theorem Preserves.bind {m : EStateM ε σ β} {f : β → EStateM ε σ α} (hm : Preserves Inv m)
    (hf : ∀ b, Preserves Inv (f b)) : Preserves Inv (m >>= f) := fun s h => by
  rw [wp_bind]
  exact wp_mono (hm s h) (fun b t ht => hf b t ht) fun _ _ ht => ht

/-- What is read from the state is read from a state with the invariant. -/
theorem Preserves.read {f : σ → EStateM ε σ α} (hf : ∀ s, Inv s → Preserves Inv (f s)) :
    Preserves Inv (get >>= f) := fun s h => by
  rw [wp_bind, wp_get]
  exact hf s h s h

theorem preserves_set {s : σ} (h : Inv s) : Preserves Inv (set s : EStateM ε σ PUnit) :=
  fun _ _ => h

theorem Preserves.ite {c : Prop} [Decidable c] {m n : EStateM ε σ α} (hm : c → Preserves Inv m)
    (hn : ¬ c → Preserves Inv n) : Preserves Inv (if c then m else n) := by
  split
  · exact hm ‹_›
  · exact hn ‹_›

theorem Preserves.mapError {m : EStateM ε σ α} (hm : Preserves Inv m) (f : ε → ε') :
    Preserves Inv (Lib.mapError f m) := fun s h => (wp_mapError f m).mpr (hm s h)

theorem Preserves.attempt {m : EStateM ε σ α} (hm : Preserves Inv m) :
    Preserves Inv (Lib.attempt m : EStateM ε' σ (Except ε α)) := fun s h =>
  (wp_attempt m).mpr (hm s h)

/-- A part of the state may be worked on by itself. -/
theorem Preserves.zoom {get : τ → σ} {put : σ → τ → τ} {InvT : τ → Prop} {m : EStateM ε σ α}
    (hm : Preserves Inv m) (hget : ∀ t, InvT t → Inv (get t))
    (hput : ∀ s t, InvT t → Inv s → InvT (put s t)) : Preserves InvT (Lib.zoom get put m) :=
  fun t ht => (wp_zoom get put m).mpr
    (wp_mono (hm (get t) (hget t ht)) (fun _ s hs => hput s t ht hs) fun _ s hs => hput s t ht hs)

/-- A loop keeps what each visit keeps of the shared state and of its element. -/
theorem preserves_each {f : EStateM ε (σ × α) Bool} {Elem : α → Prop}
    (hf : Preserves (fun t => Inv t.1 ∧ Elem t.2) f) :
    Preserves (fun t => Inv t.1 ∧ ∀ a ∈ t.2, Elem a) (each f) := by
  rintro ⟨s, as⟩ ⟨hs, has⟩
  induction as generalizing s with
  | nil => exact ⟨hs, has⟩
  | cons a as ih =>
    obtain ⟨ha, has⟩ := List.forall_mem_cons.mp has
    rw [wp_each_cons]
    refine wp_mono (hf (s, a) ⟨hs, ha⟩) (fun _ t ht => ?_) fun _ t ht =>
      ⟨ht.1, List.forall_mem_cons.mpr ⟨ht.2, has⟩⟩
    exact wp_mono (ih t.1 ht.1 has)
      (fun _ u hu => ⟨hu.1, List.forall_mem_cons.mpr ⟨ht.2, hu.2⟩⟩)
      fun _ u hu => ⟨hu.1, List.forall_mem_cons.mpr ⟨ht.2, hu.2⟩⟩

theorem preserves_runAll {ι : Type} {step : ι → EStateM ε σ Unit} {is : List ι}
    (h : ∀ i ∈ is, Preserves Inv (step i)) : Preserves Inv (runAll step is) := fun s hs => by
  induction is generalizing s with
  | nil => exact hs
  | cons i is ih =>
    obtain ⟨hi, his⟩ := List.forall_mem_cons.mp h
    rw [runAll, wp_bind]
    exact wp_mono (hi s hs) (fun _ t ht => ih his t ht) fun _ _ ht => ht

/-- The state that is left behind has the invariant. -/
theorem Preserves.after {m : EStateM ε σ α} (h : Preserves Inv m) {s : σ} (hs : Inv s) :
    Inv (Lib.after m s) := wp_after (h s hs)

end Wroid.Lib
