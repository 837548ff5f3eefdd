import Mathlib

/-!
# Fallible computations over a state

`EStateM ε σ α` is a computation that reads and writes a state `σ` and either returns an
`α` or fails with an `ε`; what it wrote before failing stays written.  This file gives it a
weakest-precondition calculus over plain predicates, and the loop the developments above
it are made of: visiting the elements of a list in order, each visit updating the element
and a shared state.

## Main definitions

* `wp m Q R s` — started in `s`, `m` returns with `Q` or fails with `R`.
* `returnsWith p m s`, `failsWith p m s` — how `m` ends, in a state that passes the test `p`.
* `after m s` — the state `m` leaves behind, whichever way it ends.
* `zoom`, `mapError`, `attempt` — run on a part of the state, rename errors, catch them.
* `ofAnswer` — go on with an answer, or fail with it.
* `each f` — visit every element of a list with `f`, stopping at the first failure.
* `runAll step` — run one step per element of a list of inputs.
* `AllSteps step P` — every step of a run is taken in a state that satisfies `P`.

## Main results

* `wp_each_frame_log`, `wp_each_frame` — **the frame rule for loops**: if every visit only
  touches the part of the shared state its element owns, and the parts are disjoint, then what
  one visit establishes about its element still holds when the loop has ended.
* `wp_runAll`, `wp_runAll_of_allSteps` — an invariant of every step is an invariant of every
  run.
-/

namespace Wroid.Lib

variable {ε ε' σ τ α β : Type}

/-! ### Weakest preconditions -/

/-- Started in `s`, the computation `m` returns with `Q` or fails with `R`. -/
def wp (m : EStateM ε σ α) (Q : α → σ → Prop) (R : ε → σ → Prop) (s : σ) : Prop :=
  match m s with
  | .ok a s' => Q a s'
  | .error e s' => R e s'

section Wp

variable {Q : α → σ → Prop} {R : ε → σ → Prop} {s : σ}

@[simp] theorem wp_pure (a : α) : wp (pure a) Q R s ↔ Q a s := Iff.rfl

@[simp] theorem wp_bind (m : EStateM ε σ β) (f : β → EStateM ε σ α) :
    wp (m >>= f) Q R s ↔ wp m (fun b t => wp (f b) Q R t) R s := by
  simp only [wp, bind, EStateM.bind]
  cases m s <;> rfl

@[simp] theorem wp_map (f : β → α) (m : EStateM ε σ β) :
    wp (f <$> m) Q R s ↔ wp m (fun b t => Q (f b) t) R s := by
  simp only [wp, Functor.map, EStateM.map]
  cases m s <;> rfl

@[simp] theorem wp_get {Q : σ → σ → Prop} : wp (get : EStateM ε σ σ) Q R s ↔ Q s s := Iff.rfl

@[simp] theorem wp_set {Q : PUnit → σ → Prop} (t : σ) :
    wp (set t : EStateM ε σ PUnit) Q R s ↔ Q ⟨⟩ t := Iff.rfl

@[simp] theorem wp_modify {Q : PUnit → σ → Prop} (f : σ → σ) :
    wp (modify f : EStateM ε σ PUnit) Q R s ↔ Q ⟨⟩ (f s) := Iff.rfl

@[simp] theorem wp_throw (e : ε) : wp (throw e : EStateM ε σ α) Q R s ↔ R e s := Iff.rfl

@[simp] theorem wp_ite (c : Prop) [Decidable c] (m n : EStateM ε σ α) :
    wp (if c then m else n) Q R s ↔ if c then wp m Q R s else wp n Q R s := by
  split <;> rfl

/-- Weakening of both postconditions. -/
theorem wp_mono {m : EStateM ε σ α} {Q' : α → σ → Prop} {R' : ε → σ → Prop}
    (h : wp m Q R s) (hQ : ∀ a t, Q a t → Q' a t) (hR : ∀ e t, R e t → R' e t) :
    wp m Q' R' s := by
  unfold wp at h ⊢
  split <;> rename_i heq <;> rw [heq] at h
  · exact hQ _ _ h
  · exact hR _ _ h

/-- Two postconditions established separately hold together. -/
theorem wp_and {m : EStateM ε σ α} {Q' : α → σ → Prop} {R' : ε → σ → Prop}
    (h : wp m Q R s) (h' : wp m Q' R' s) :
    wp m (fun a t => Q a t ∧ Q' a t) (fun e t => R e t ∧ R' e t) s := by
  unfold wp at h h' ⊢
  split <;> rename_i heq <;> rw [heq] at h h' <;> exact ⟨h, h'⟩

/-- What a computation does. -/
theorem wp_self (m : EStateM ε σ α) (s : σ) :
    wp m (fun a t => m s = .ok a t) (fun e t => m s = .error e t) s := by
  unfold wp
  split <;> assumption

theorem wp_true {m : EStateM ε σ α} : wp m (fun _ _ => True) (fun _ _ => True) s := by
  unfold wp
  split <;> trivial

/-- A computation that cannot fail returns. -/
theorem wp_returns {m : EStateM ε σ α} (h : wp m Q (fun _ _ => False) s) :
    ∃ a t, m s = .ok a t ∧ Q a t := by
  unfold wp at h
  split at h <;> rename_i heq
  · exact ⟨_, _, heq, h⟩
  · exact h.elim

theorem wp_ok {m : EStateM ε σ α} {a : α} {t : σ} (h : wp m Q R s) (hm : m s = .ok a t) :
    Q a t := by
  unfold wp at h
  rwa [hm] at h

theorem wp_error {m : EStateM ε σ α} {e : ε} {t : σ} (h : wp m Q R s)
    (hm : m s = .error e t) : R e t := by
  unfold wp at h
  rwa [hm] at h

theorem wp_of_ok {m : EStateM ε σ α} {a : α} {t : σ} (hm : m s = .ok a t) (h : Q a t) :
    wp m Q R s := by
  unfold wp
  rwa [hm]

/-- Started in `s`, the computation `m` returns in a state that passes the test `p`. -/
def returnsWith (p : σ → Bool) (m : EStateM ε σ α) (s : σ) : Bool :=
  match m s with
  | .ok _ t => p t
  | .error _ _ => false

theorem exists_of_returnsWith {p : σ → Bool} {m : EStateM ε σ α} (h : returnsWith p m s = true) :
    ∃ a t, m s = .ok a t ∧ p t = true := by
  unfold returnsWith at h
  split at h <;> rename_i heq
  · exact ⟨_, _, heq, h⟩
  · cases h

/-- Started in `s`, the computation `m` fails in a state that passes the test `p`. -/
def failsWith (p : σ → Bool) (m : EStateM ε σ α) (s : σ) : Bool :=
  match m s with
  | .ok _ _ => false
  | .error _ t => p t

theorem exists_of_failsWith {p : σ → Bool} {m : EStateM ε σ α} (h : failsWith p m s = true) :
    ∃ e t, m s = .error e t ∧ p t = true := by
  unfold failsWith at h
  split at h <;> rename_i heq
  · cases h
  · exact ⟨_, _, heq, h⟩

/-- The state `m` leaves behind, whether it returns or fails. -/
def after (m : EStateM ε σ α) (s : σ) : σ :=
  match m s with
  | .ok _ t => t
  | .error _ t => t

/-- What both outcomes establish holds afterwards. -/
theorem wp_after {m : EStateM ε σ α} {s : σ} {P : σ → Prop}
    (h : wp m (fun _ t => P t) (fun _ t => P t) s) : P (after m s) := by
  unfold wp at h
  unfold after
  split <;> rename_i heq <;> rwa [heq] at h

end Wp

/-! ### Parts of the state, and errors -/

/-- Run `m` on the part of the state that `get` reads and `put` writes back. -/
def zoom (get : τ → σ) (put : σ → τ → τ) (m : EStateM ε σ α) : EStateM ε τ α := fun t =>
  match m (get t) with
  | .ok a s => .ok a (put s t)
  | .error e s => .error e (put s t)

@[simp] theorem wp_zoom (get : τ → σ) (put : σ → τ → τ) (m : EStateM ε σ α)
    {Q : α → τ → Prop} {R : ε → τ → Prop} {t : τ} :
    wp (zoom get put m) Q R t ↔
      wp m (fun a s => Q a (put s t)) (fun e s => R e (put s t)) (get t) := by
  simp only [wp, zoom]
  cases m (get t) <;> rfl

/-- The computation `m` with its errors renamed by `f`. -/
def mapError (f : ε → ε') (m : EStateM ε σ α) : EStateM ε' σ α := fun s =>
  match m s with
  | .ok a s' => .ok a s'
  | .error e s' => .error (f e) s'

@[simp] theorem wp_mapError (f : ε → ε') (m : EStateM ε σ α)
    {Q : α → σ → Prop} {R : ε' → σ → Prop} {s : σ} :
    wp (mapError f m) Q R s ↔ wp m Q (fun e t => R (f e) t) s := by
  simp only [wp, mapError]
  cases m s <;> rfl

/-- Run `m` and hand its outcome, success or failure, to the rest of the computation. -/
def attempt (m : EStateM ε σ α) : EStateM ε' σ (Except ε α) := fun s =>
  match m s with
  | .ok a s' => .ok (.ok a) s'
  | .error e s' => .ok (.error e) s'

@[simp] theorem wp_attempt (m : EStateM ε σ α)
    {Q : Except ε α → σ → Prop} {R : ε' → σ → Prop} {s : σ} :
    wp (attempt m) Q R s ↔ wp m (fun a t => Q (.ok a) t) (fun e t => Q (.error e) t) s := by
  simp only [wp, attempt]
  cases m s <;> rfl

/-- What somebody else has answered, in a computation. -/
def ofAnswer : Except ε α → EStateM ε σ α
  | .ok a => pure a
  | .error e => throw e

@[simp] theorem wp_ofAnswer {answer : Except ε α} {Q : α → σ → Prop} {R : ε → σ → Prop} {s : σ} :
    wp (ofAnswer answer) Q R s ↔
      (∀ a, answer = .ok a → Q a s) ∧ ∀ e, answer = .error e → R e s := by
  cases answer with
  | ok a => simp [ofAnswer]
  | error e => simp [ofAnswer]

/-! ### Visiting the elements of a list -/

/-- The loop of `each`, from the shared state `s`. -/
def eachFrom (f : EStateM ε (σ × α) Bool) : List α → σ → EStateM.Result ε (σ × List α) Bool
  | [], s => .ok false (s, [])
  | a :: as, s =>
    match f (s, a) with
    | .error e (s', a') => .error e (s', a' :: as)
    | .ok b (s', a') =>
      match eachFrom f as s' with
      | .ok b' (s'', as') => .ok (b || b') (s'', a' :: as')
      | .error e (s'', as') => .error e (s'', a' :: as')

/-- Visit the elements of a list in order.  A visit updates its element and the shared
state, and says whether it did anything; the loop says whether any visit did.  The first
failing visit ends the loop, and the elements after it stay as they were. -/
def each (f : EStateM ε (σ × α) Bool) : EStateM ε (σ × List α) Bool := fun t =>
  eachFrom f t.2 t.1

@[simp] theorem wp_each_nil (f : EStateM ε (σ × α) Bool) {s : σ}
    {Q : Bool → σ × List α → Prop} {R : ε → σ × List α → Prop} :
    wp (each f) Q R (s, []) ↔ Q false (s, []) := Iff.rfl

/-- One visit, then the rest of the loop. -/
theorem wp_each_cons (f : EStateM ε (σ × α) Bool) {s : σ} {a : α} {as : List α}
    {Q : Bool → σ × List α → Prop} {R : ε → σ × List α → Prop} :
    wp (each f) Q R (s, a :: as) ↔
      wp f (fun b t => wp (each f) (fun b' u => Q (b || b') (u.1, t.2 :: u.2))
        (fun e u => R e (u.1, t.2 :: u.2)) (t.1, as)) (fun e t => R e (t.1, t.2 :: as)) (s, a) := by
  simp only [wp, each, eachFrom]
  cases f (s, a) with
  | error e t => rfl
  | ok b t =>
    simp only
    cases eachFrom f as t.1 <;> rfl

/-- A loop over two lists in a row is the loop over the first, then over the second. -/
theorem wp_each_append (f : EStateM ε (σ × α) Bool) {s : σ} (as : List α) {bs : List α}
    {Q : Bool → σ × List α → Prop} {R : ε → σ × List α → Prop} :
    wp (each f) Q R (s, as ++ bs) ↔
      wp (each f) (fun b t => wp (each f) (fun b' u => Q (b || b') (u.1, t.2 ++ u.2))
        (fun e u => R e (u.1, t.2 ++ u.2)) (t.1, bs)) (fun e t => R e (t.1, t.2 ++ bs)) (s, as) := by
  induction as generalizing s Q R with
  | nil => simp
  | cons a as ih =>
    rw [List.cons_append, wp_each_cons, wp_each_cons]
    simp only [ih, List.cons_append, Bool.or_assoc]

section Frame

variable {κ : Type} {ω : Type}

/-- **The frame rule for loops.**  Each element owns a set of keys of the shared state;
`view` reads the state key by key.  If a visit keeps the keys its element does not own, and
`Pre` and `Post` only depend on the keys that are owned, then the visits do not disturb one
another: after the loop every element satisfies `Post`, and the keys nobody owns are as
they were.  What the visits add to a log is there in their order, and a loop that fails has
added the first part of it. -/
theorem wp_each_frame_log {lam : Type} {f : EStateM ε (σ × α) Bool} (view : σ → κ → ω)
    (own : α → Set κ) (log : σ → List lam) (out : α → List lam)
    (Inv : σ → Prop) (Pre : σ → α → Prop) (Post : α → σ → α → Prop) (R : ε → σ → Prop)
    (hpre : ∀ a s s', (∀ k ∈ own a, view s' k = view s k) → Pre s a → Pre s' a)
    (hpost : ∀ a a' s s', (∀ k ∈ own a, view s' k = view s k) → Post a s a' → Post a s' a')
    (hf : ∀ s a, Inv s → Pre s a →
      wp f (fun _ t => Inv t.1 ∧ Post a t.1 t.2 ∧ (∀ k ∉ own a, view t.1 k = view s k) ∧
        log t.1 = log s ++ out a)
        (fun e t => R e t.1 ∧ ∃ done, done <+: out a ∧ log t.1 = log s ++ done) (s, a))
    {as : List α} (hd : as.Pairwise fun a b => Disjoint (own a) (own b)) {s : σ} (hI : Inv s)
    (hp : ∀ a ∈ as, Pre s a) :
    wp (each f) (fun _ t => Inv t.1 ∧ List.Forall₂ (fun a a' => Post a t.1 a') as t.2 ∧
      (∀ k, (∀ a ∈ as, k ∉ own a) → view t.1 k = view s k) ∧ log t.1 = log s ++ as.flatMap out)
      (fun e t => R e t.1 ∧ ∃ done, done <+: as.flatMap out ∧ log t.1 = log s ++ done) (s, as) := by
  induction as generalizing s with
  | nil => exact ⟨hI, .nil, fun _ _ => rfl, (List.append_nil _).symm⟩
  | cons a as ih =>
    obtain ⟨hda, hd⟩ := List.pairwise_cons.mp hd
    rw [wp_each_cons, List.flatMap_cons]
    refine wp_mono (hf s a hI (hp a List.mem_cons_self)) ?_ ?_
    · rintro b ⟨s₁, a'⟩ ⟨hI₁, hpost₁, hkeep₁, hlog₁⟩
      -- the elements still to be visited own none of the keys this visit may have changed
      have hpre' : ∀ c ∈ as, Pre s₁ c := fun c hc =>
        hpre c s s₁ (fun k hk => hkeep₁ k fun hka => (hda c hc).ne_of_mem hka hk rfl)
          (hp c (List.mem_cons_of_mem a hc))
      have hlog₁ : log s₁ = log s ++ out a := hlog₁
      refine wp_mono (ih hd hI₁ hpre') ?_ ?_
      · rintro b' ⟨s₂, as'⟩ ⟨hI₂, hall, hkeep₂, hlog₂⟩
        refine ⟨hI₂, .cons (hpost a a' s₁ s₂ (fun k hk => hkeep₂ k fun c hc hkc =>
          (hda c hc).ne_of_mem hk hkc rfl) hpost₁) hall, fun k hk => ?_, ?_⟩
        · rw [hkeep₂ k fun c hc => hk c (List.mem_cons_of_mem a hc),
            hkeep₁ k (hk a List.mem_cons_self)]
        · rw [hlog₂, hlog₁, List.append_assoc]
      · rintro e t ⟨hR, done, hdone, hlog⟩
        refine ⟨hR, out a ++ done, List.prefix_append_right_inj (out a) |>.mpr hdone, ?_⟩
        rw [hlog, hlog₁, List.append_assoc]
    · rintro e t ⟨hR, done, hdone, hlog⟩
      exact ⟨hR, done, hdone.trans (List.prefix_append _ _), hlog⟩

/-- The frame rule for loops, without a log. -/
theorem wp_each_frame {f : EStateM ε (σ × α) Bool} (view : σ → κ → ω) (own : α → Set κ)
    (Inv : σ → Prop) (Pre : σ → α → Prop) (Post : α → σ → α → Prop) (R : ε → σ → Prop)
    (hpre : ∀ a s s', (∀ k ∈ own a, view s' k = view s k) → Pre s a → Pre s' a)
    (hpost : ∀ a a' s s', (∀ k ∈ own a, view s' k = view s k) → Post a s a' → Post a s' a')
    (hf : ∀ s a, Inv s → Pre s a →
      wp f (fun _ t => Inv t.1 ∧ Post a t.1 t.2 ∧ ∀ k ∉ own a, view t.1 k = view s k)
        (fun e t => R e t.1) (s, a))
    {as : List α} (hd : as.Pairwise fun a b => Disjoint (own a) (own b)) {s : σ} (hI : Inv s)
    (hp : ∀ a ∈ as, Pre s a) :
    wp (each f) (fun _ t => Inv t.1 ∧ List.Forall₂ (fun a a' => Post a t.1 a') as t.2 ∧
      ∀ k, (∀ a ∈ as, k ∉ own a) → view t.1 k = view s k) (fun e t => R e t.1) (s, as) := by
  have hlog : ∀ s a, Inv s → Pre s a → wp f
      (fun _ t => Inv t.1 ∧ Post a t.1 t.2 ∧ (∀ k ∉ own a, view t.1 k = view s k) ∧
        ([] : List Unit) = [] ++ [])
      (fun e t => R e t.1 ∧ ∃ done : List Unit, done <+: [] ∧ [] = [] ++ done) (s, a) :=
    fun s a hs ha => wp_mono (hf s a hs ha) (fun _ _ h => ⟨h.1, h.2.1, h.2.2, rfl⟩)
      fun _ _ h => ⟨h, [], List.prefix_rfl, rfl⟩
  refine wp_mono (wp_each_frame_log view own (fun _ => ([] : List Unit)) (fun _ => []) Inv Pre Post R
    hpre hpost hlog hd hI hp) ?_ fun _ _ h => h.1
  exact fun _ _ ⟨hI', hall, hkeep, _⟩ => ⟨hI', hall, hkeep⟩

/-- A loop whose visits, wherever they start, relate each element to the visited one. -/
theorem wp_each {f : EStateM ε (σ × α) Bool} (Pre : α → Prop) (Post : α → α → Prop)
    (hf : ∀ s a, Pre a → wp f (fun _ t => Post a t.2) (fun _ _ => True) (s, a))
    {as : List α} {s : σ} (hp : ∀ a ∈ as, Pre a) :
    wp (each f) (fun _ t => List.Forall₂ Post as t.2) (fun _ _ => True) (s, as) := by
  induction as generalizing s with
  | nil => exact .nil
  | cons a as ih =>
    rw [wp_each_cons]
    refine wp_mono (hf s a (hp a List.mem_cons_self)) ?_ fun _ _ h => h
    rintro b ⟨s₁, a'⟩ hpost
    refine wp_mono (ih fun c hc => hp c (List.mem_cons_of_mem a hc)) ?_ fun _ _ h => h
    exact fun b' _ hall => .cons hpost hall

/-- A loop whose visits keep an invariant of the shared state and leave each element as said. -/
theorem wp_each_inv {f : EStateM ε (σ × α) Bool} (Inv : σ → Prop) (Post : α → Prop)
    (R : ε → σ → Prop)
    (hf : ∀ s a, Inv s → wp f (fun _ t => Inv t.1 ∧ Post t.2) (fun e t => R e t.1) (s, a))
    {as : List α} {s : σ} (hs : Inv s) :
    wp (each f) (fun _ t => Inv t.1 ∧ ∀ a ∈ t.2, Post a) (fun e t => R e t.1) (s, as) := by
  induction as generalizing s with
  | nil => exact ⟨hs, fun a ha => absurd ha List.not_mem_nil⟩
  | cons a as ih =>
    rw [wp_each_cons]
    refine wp_mono (hf s a hs) ?_ fun _ _ h => h
    rintro b ⟨s₁, a'⟩ ⟨hs₁, ha'⟩
    refine wp_mono (ih hs₁) ?_ fun _ _ h => h
    rintro b' ⟨s₂, as'⟩ ⟨hs₂, has'⟩
    exact ⟨hs₂, List.forall_mem_cons.mpr ⟨ha', has'⟩⟩

end Frame

/-! ### Runs -/

/-- Run one step for each input, in order. -/
def runAll {ι : Type} (step : ι → EStateM ε σ Unit) : List ι → EStateM ε σ Unit
  | [] => pure ()
  | i :: is => step i >>= fun _ => runAll step is

/-- **An invariant of every step is an invariant of every run.** -/
theorem wp_runAll_of_mem {ι : Type} {step : ι → EStateM ε σ Unit} {Inv : σ → Prop}
    {R : ε → σ → Prop} {is : List ι}
    (hstep : ∀ i ∈ is, ∀ s, Inv s → wp (step i) (fun _ t => Inv t) R s)
    {s : σ} (hI : Inv s) : wp (runAll step is) (fun _ t => Inv t) R s := by
  induction is generalizing s with
  | nil => exact hI
  | cons i is ih =>
    rw [runAll, wp_bind]
    exact wp_mono (hstep i List.mem_cons_self s hI)
      (fun _ t ht => ih (fun j hj => hstep j (List.mem_cons_of_mem i hj)) ht) fun _ _ h => h

/-- Every step of the run from `s` is taken in a state that satisfies `P` with its input. -/
def AllSteps {ι : Type} (step : ι → EStateM ε σ Unit) (P : σ → ι → Prop) : List ι → σ → Prop
  | [], _ => True
  | i :: is, s => P s i ∧ match step i s with
    | .ok _ t => AllSteps step P is t
    | .error _ _ => True

instance decidableAllSteps {ι : Type} (step : ι → EStateM ε σ Unit) (P : σ → ι → Prop)
    [∀ s i, Decidable (P s i)] : (is : List ι) → (s : σ) → Decidable (AllSteps step P is s)
  | [], _ => .isTrue trivial
  | i :: is, s =>
    have : Decidable (match step i s with
        | .ok _ t => AllSteps step P is t
        | .error _ _ => True) :=
      match step i s with
      | .ok _ t => decidableAllSteps step P is t
      | .error _ _ => .isTrue trivial
    inferInstanceAs (Decidable (_ ∧ _))

/-- An invariant of the steps that meet a condition is an invariant of the runs whose steps
all meet it. -/
theorem wp_runAll_of_allSteps {ι : Type} {step : ι → EStateM ε σ Unit} {P : σ → ι → Prop}
    {Inv : σ → Prop} {R : ε → σ → Prop}
    (hstep : ∀ i s, P s i → Inv s → wp (step i) (fun _ t => Inv t) R s) {is : List ι} {s : σ}
    (hP : AllSteps step P is s) (hI : Inv s) : wp (runAll step is) (fun _ t => Inv t) R s := by
  induction is generalizing s with
  | nil => exact hI
  | cons i is ih =>
    obtain ⟨hi, hrest⟩ := hP
    have h := hstep i s hi hI
    rw [runAll, wp_bind]
    unfold wp at h ⊢
    cases hm : step i s with
    | ok u t =>
      simp only [hm] at h hrest
      exact ih hrest h
    | error e t => simpa only [hm] using h

/-- The same, for a step that keeps the invariant whatever its input is. -/
theorem wp_runAll {ι : Type} {step : ι → EStateM ε σ Unit} {Inv : σ → Prop} {R : ε → σ → Prop}
    (hstep : ∀ i s, Inv s → wp (step i) (fun _ t => Inv t) R s)
    (is : List ι) {s : σ} (hI : Inv s) : wp (runAll step is) (fun _ t => Inv t) R s :=
  wp_runAll_of_mem (fun i _ => hstep i) hI

/-- A run succeeds exactly if all its inputs are good, when a step keeps the invariant with a
good input and fails with any other. -/
theorem runAll_ok_iff {ι : Type} {step : ι → EStateM ε σ Unit} {Good : ι → Prop} {Inv : σ → Prop}
    {is : List ι}
    (hgood : ∀ i ∈ is, Good i → ∀ s, Inv s → wp (step i) (fun _ t => Inv t) (fun _ _ => False) s)
    (hbad : ∀ i ∈ is, ¬ Good i → ∀ s, Inv s → wp (step i) (fun _ _ => False) (fun _ _ => True) s)
    {s : σ} (hI : Inv s) : (∃ t, runAll step is s = .ok () t) ↔ ∀ i ∈ is, Good i := by
  induction is generalizing s with
  | nil => exact ⟨fun _ => by simp, fun _ => ⟨s, rfl⟩⟩
  | cons i is ih =>
    rw [List.forall_mem_cons] at hgood hbad ⊢
    simp only [runAll, bind, EStateM.bind]
    by_cases hi : Good i
    · have hstep := hgood.1 hi s hI
      cases hm : step i s with
      | error e t => exact (wp_error hstep hm).elim
      | ok u t =>
        simp only [hi, true_and]
        exact ih hgood.2 hbad.2 (wp_ok hstep hm)
    · have hstep := hbad.1 hi s hI
      cases hm : step i s with
      | error e t => simp [hi]
      | ok u t => exact (wp_ok hstep hm).elim

/-! ### Lists related element by element -/

/-- Every element of the first list is related to one of the second. -/
theorem forall₂_exists_right {γ : Type} {R : α → γ → Prop} {as : List α} {cs : List γ}
    (h : List.Forall₂ R as cs) {a : α} (ha : a ∈ as) : ∃ c ∈ cs, R a c := by
  induction h with
  | nil => simp at ha
  | @cons a' c as cs hR _ ih =>
    rcases List.mem_cons.mp ha with rfl | ha
    · exact ⟨c, List.mem_cons_self, hR⟩
    · obtain ⟨d, hd, hRd⟩ := ih ha
      exact ⟨d, List.mem_cons_of_mem c hd, hRd⟩

/-- Every element of the second list is related to one of the first. -/
theorem forall₂_exists_left {γ : Type} {R : α → γ → Prop} {as : List α} {cs : List γ}
    (h : List.Forall₂ R as cs) {c : γ} (hc : c ∈ cs) : ∃ a ∈ as, R a c :=
  forall₂_exists_right h.flip hc

/-- Two lists whose elements give the same lists give the same list. -/
theorem flatMap_eq_of_forall₂ {γ : Type} {f : α → List β} {g : γ → List β} {as : List α}
    {cs : List γ} (h : List.Forall₂ (fun a c => f a = g c) as cs) : as.flatMap f = cs.flatMap g := by
  induction h with
  | nil => rfl
  | cons hhead _ ih => rw [List.flatMap_cons, List.flatMap_cons, hhead, ih]

/-- Relations between three lists compose. -/
theorem forall₂_trans {γ : Type} {R : α → β → Prop} {S : β → γ → Prop} {T : α → γ → Prop}
    (htrans : ∀ a b c, R a b → S b c → T a c) {as : List α} {bs : List β} {cs : List γ}
    (h : List.Forall₂ R as bs) (h' : List.Forall₂ S bs cs) : List.Forall₂ T as cs := by
  induction h generalizing cs with
  | nil =>
    cases h'
    exact .nil
  | cons hR _ ih =>
    cases h' with
    | cons hS hrest => exact .cons (htrans _ _ _ hR hS) (ih hrest)

/-- Relating the pairs of a zipped list is relating the elements of the first. -/
theorem forall₂_of_zip {γ : Type} {R : α × β → γ → Prop} {as : List α} {bs : List β}
    {cs : List γ} (hlen : as.length = bs.length) (h : List.Forall₂ R (as.zip bs) cs) :
    List.Forall₂ (fun a c => ∃ b, (a, b) ∈ as.zip bs ∧ R (a, b) c) as cs := by
  induction as generalizing bs cs with
  | nil =>
    cases bs with
    | nil => cases h; exact .nil
    | cons b bs => simp at hlen
  | cons a as ih =>
    cases bs with
    | nil => simp at hlen
    | cons b bs =>
      rw [List.zip_cons_cons] at h
      obtain ⟨c, cs', hR, hrest, rfl⟩ := List.forall₂_cons_left_iff.mp h
      refine .cons ⟨b, List.mem_cons_self, hR⟩ ?_
      refine (ih (by simpa using hlen) hrest).imp ?_
      rintro a' c' ⟨b', hmem, hR'⟩
      exact ⟨b', List.mem_cons_of_mem _ hmem, hR'⟩

/-! ### Pure fallible computations -/

/-- A list is mapped without a failure iff every element is. -/
theorem mapM_eq_ok {f : α → Except ε β} {as : List α} {bs : List β} :
    as.mapM f = .ok bs ↔ List.Forall₂ (fun a b => f a = .ok b) as bs := by
  induction as generalizing bs with
  | nil => simp [pure, Except.pure, eq_comm]
  | cons a as ih =>
    rw [List.mapM_cons, List.forall₂_cons_left_iff]
    cases ha : f a with
    | error e => simp [bind, Except.bind]
    | ok b =>
      simp only [bind, Except.bind, Except.ok.injEq]
      cases has : as.mapM f with
      | error e =>
        simp only [reduceCtorEq, false_iff, not_exists, not_and]
        rintro b' bs' - hrest -
        rw [← ih, has] at hrest
        cases hrest
      | ok bs' =>
        simp only [pure, Except.pure, Except.ok.injEq]
        constructor
        · rintro rfl
          exact ⟨b, bs', rfl, ih.mp has, rfl⟩
        · rintro ⟨_, bs'', rfl, hrest, rfl⟩
          rw [← ih, has, Except.ok.injEq] at hrest
          rw [hrest]

/-- Mapping a list fails at its first element that fails. -/
theorem mapM_eq_error {f : α → Except ε β} {as : List α} {e : ε} (h : as.mapM f = .error e) :
    ∃ before a rest, as = before ++ a :: rest ∧ (∀ x ∈ before, ∃ y, f x = .ok y) ∧
      f a = .error e := by
  induction as with
  | nil => cases h
  | cons a as ih =>
    rw [List.mapM_cons] at h
    cases ha : f a with
    | error e' =>
      simp only [ha, bind, Except.bind, Except.error.injEq] at h
      exact ⟨[], a, as, rfl, by simp, h ▸ ha⟩
    | ok b =>
      simp only [ha, bind, Except.bind] at h
      split at h
      · next e' hrest =>
        obtain rfl := Except.error.inj h
        obtain ⟨before, c, rest, rfl, hbefore, hc⟩ := ih hrest
        exact ⟨a :: before, c, rest, rfl, by simpa [ha] using hbefore, hc⟩
      · cases h

/-- An invariant of every step of a fold that never fails. -/
theorem foldlM_ok (f : σ → α → Except ε σ) (as : List α) (Inv : List α → σ → Prop)
    (hstep : ∀ done a s, (∃ rest, as = done ++ a :: rest) → Inv done s →
      ∃ t, f s a = .ok t ∧ Inv (done ++ [a]) t)
    {s : σ} (hI : Inv [] s) : ∃ t, as.foldlM f s = .ok t ∧ Inv as t := by
  suffices h : ∀ done rest s, as = done ++ rest → Inv done s →
      ∃ t, rest.foldlM f s = .ok t ∧ Inv as t from h [] as s rfl hI
  intro done rest
  induction rest generalizing done with
  | nil =>
    rintro s rfl hs
    exact ⟨s, rfl, by simpa using hs⟩
  | cons a rest ih =>
    intro s has hs
    obtain ⟨t, hft, ht⟩ := hstep done a s ⟨rest, has⟩ hs
    obtain ⟨u, hfu, hu⟩ := ih (done ++ [a]) t (by simp [has]) ht
    refine ⟨u, ?_, hu⟩
    rw [List.foldlM_cons, hft]
    exact hfu

end Wroid.Lib
