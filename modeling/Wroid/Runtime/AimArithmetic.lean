import Wroid.Runtime.AimEdge
import Wroid.Runtime.CheckedAim
import Wroid.Runtime.PlanSafety

/-!
# The arithmetic of an aim controller

Scaled motions are small, because the denominator of a scale is at least `1000`.  But during a
gap the motion that is kept back adds up to anything an `i64` holds, and at the end of the gap
it is added to the coordinates of the origin without saturating.

## Main definitions

* `MouseAimController.KeptTooFar` — a call ends a gap with more motion kept back than fits.
* `MouseAimController.Sound` — everything is in the range of its type.

## Main results

* `checkedPerform_inRange_iff` — a call overflows exactly if it ends a gap with too much motion.
* `perform_sound` — every call keeps everything in range.
* `aim_arithmetic_in_range_iff` — **a run of the controller of an accepted aim binding overflows
  exactly if a call of the run ends a gap with too much motion**.
-/

namespace Wroid

open Lib TouchEngine

/-! ### What fits -/

/-- At most half of what an `i64` holds. -/
def IsSmall (v : ℤ) : Prop := v.natAbs ≤ 4611686018427387904

/-- With a denominator above `1`, the whole pixels of a motion are small. -/
theorem scaleStep_small {carry delta numerator denominator : ℤ} (hden : 1 < denominator) :
    IsSmall (scaleStep carry delta numerator denominator).1 := by
  rw [scaleStep, if_neg (by omega)]
  generalize hscaled : saturateI64 (saturateI64 (delta * numerator) + carry) = scaled
  have hbound : scaled.natAbs ≤ 9223372036854775808 := by
    rw [← hscaled]
    unfold saturateI64 i64Min i64Max
    omega
  have hquot : (scaled.tdiv denominator).natAbs ≤ scaled.natAbs / 2 := by
    rw [Int.natAbs_tdiv]
    exact Nat.div_le_div_left (by omega) (by omega)
  unfold IsSmall
  dsimp only
  omega

theorem checkedScaleStep_of_pos {carry delta numerator denominator : ℤ} (hden : 0 < denominator) :
    checkedScaleStep carry delta numerator denominator =
      some (scaleStep carry delta numerator denominator) := by
  have hbounds : ∀ z, i64Min ≤ saturateI64 z ∧ saturateI64 z ≤ i64Max := by
    intro z
    unfold saturateI64 i64Min i64Max
    omega
  unfold checkedScaleStep checkedRem scaleStep
  rw [if_neg hden.ne', if_neg hden.ne']
  simp only [checkedDiv_of_pos (hbounds _) hden, Option.bind_eq_bind, Option.bind_some,
    Option.pure_def]

/-- A displacement only overflows upwards. -/
theorem checkedOffsetAxis_isSome {value : ℕ} {delta : ℤ} (hdelta : i64Min ≤ delta) :
    (checkedOffsetAxis value delta).isSome = true ↔ value + delta ≤ i64Max := by
  unfold checkedOffsetAxis checkedI64
  unfold i64Min at *
  split
  · next h => exact iff_of_true rfl h.2
  · next h =>
    refine iff_of_false nofun ?_
    omega

theorem checkedOffsetPoint_isSome {point : Point} {dx dy : ℤ} (hx : i64Min ≤ dx)
    (hy : i64Min ≤ dy) : (checkedOffsetPoint point dx dy).isSome = true ↔
      point.x + dx ≤ i64Max ∧ point.y + dy ≤ i64Max := by
  rw [← checkedOffsetAxis_isSome hx, ← checkedOffsetAxis_isSome hy]
  unfold checkedOffsetPoint
  cases checkedOffsetAxis point.x dx with
  | none => exact iff_of_false nofun nofun
  | some x =>
    cases checkedOffsetAxis point.y dy with
    | none => exact iff_of_false nofun nofun
    | some y => exact iff_of_true rfl ⟨rfl, rfl⟩

/-- A point whose coordinates a `u32` holds. -/
def Point.InU32 (p : Point) : Prop := p.x ≤ u32Max ∧ p.y ≤ u32Max

/-- A small displacement of such a point fits. -/
theorem checkedOffsetPoint_of_small {point : Point} {dx dy : ℤ} (hpoint : point.InU32)
    (hx : IsSmall dx) (hy : IsSmall dy) :
    checkedOffsetPoint point dx dy = some (offsetPoint point dx dy) := by
  have hfits : (checkedOffsetPoint point dx dy).isSome = true := by
    unfold Point.InU32 u32Max at hpoint
    unfold IsSmall at hx hy
    rw [checkedOffsetPoint_isSome (by unfold i64Min; omega) (by unfold i64Min; omega)]
    unfold i64Max
    omega
  obtain ⟨r, hr⟩ := Option.isSome_iff_exists.mp hfits
  rw [hr, checkedOffsetPoint_eq hr]

namespace MouseAimController

variable {I : Type} [TouchInjector I]

/-- A controller whose values are in the ranges of their types, with a scale that makes every
motion smaller. -/
structure Bounded (c : MouseAimController) : Prop where
  right : c.aim.region.right ≤ u32Max
  bottom : c.aim.region.bottom ≤ u32Max
  denominator : 1 < c.aim.sensitivity.denominator
  pending : ∀ r, c.pendingRecenter = some r → saturateI64 r.dx = r.dx ∧ saturateI64 r.dy = r.dy

/-- Scaling never overflows. -/
theorem checkedScaledDelta_fits (c : MouseAimController) (delta : MouseAimDelta) :
    c.checkedScaledDelta delta = some (c.scaledDelta delta) := by
  unfold checkedScaledDelta
  rw [scaledDelta_inForce]
  simp only [checkedScaleStep_of_pos c.inForce_pos]
  rfl

section Bounded

variable {c : MouseAimController}

theorem Bounded.inForce (h : c.Bounded) : 1 < c.inForce.2 := by
  have hden := h.denominator
  unfold MouseAimController.inForce
  split
  · next multiplier _ _ =>
    have hmul := Nat.pos_of_ne_zero multiplier.denominator_ne
    have hprod : c.aim.sensitivity.denominator * 1 ≤
        c.aim.sensitivity.denominator * multiplier.denominator := Nat.mul_le_mul_left _ hmul
    unfold saturateI64 i64Min i64Max
    dsimp only
    zify at hden hprod
    omega
  · change (1 : ℤ) < c.aim.sensitivity.denominator
    exact_mod_cast hden

/-- The points of the region. -/
theorem Bounded.inside (h : c.Bounded) {p : Point} (hp : c.aim.region.Contains p) : p.InU32 := by
  obtain ⟨-, hx, -, hy⟩ := hp
  exact ⟨hx.trans h.right, hy.trans h.bottom⟩

/-- The distance from the origin is measured without an overflow. -/
theorem Bounded.pastRecenterThreshold (h : c.Bounded) {target : Point} (htarget : target.InU32) :
    c.checkedPastRecenterThreshold target = some (c.pastRecenterThreshold target) := by
  obtain ⟨hleft, hright, htop, hbottom⟩ := c.aim.origin_inside
  have horigin := h.inside c.aim.origin_inside
  have hfits : (c.checkedPastRecenterThreshold target).isSome = true := by
    have hr := h.right
    have hb := h.bottom
    unfold Point.InU32 at *
    have hwidth : checkedUnsigned u32Max ((c.aim.region.right : ℤ) - c.aim.region.left) =
        some (c.aim.region.right - c.aim.region.left) :=
      checkedUnsigned_eq_some.mpr ⟨by omega, by omega⟩
    have hheight : checkedUnsigned u32Max ((c.aim.region.bottom : ℤ) - c.aim.region.top) =
        some (c.aim.region.bottom - c.aim.region.top) :=
      checkedUnsigned_eq_some.mpr ⟨by omega, by omega⟩
    have hoffset : ∀ a b : ℕ, a ≤ u32Max → b ≤ u32Max →
        checkedI64 ((a : ℤ) - b) = some ((a : ℤ) - b) := by
      intro a b ha hb
      refine checkedI64_eq_some.mpr ⟨?_, rfl⟩
      unfold u32Max at ha hb
      unfold i64Min i64Max
      omega
    have hsquares : ∀ x y : ℤ, ∃ n, checkedUnsigned u64Max
        (saturateI64 (saturateI64 (x * x) + saturateI64 (y * y))) = some n := by
      intro x y
      refine ⟨_, checkedUnsigned_eq_some.mpr ⟨?_, rfl⟩⟩
      have hx := mul_self_nonneg x
      have hy := mul_self_nonneg y
      unfold saturateI64 i64Min i64Max u64Max
      omega
    obtain ⟨n, hn⟩ := hsquares ((target.x : ℤ) - c.aim.origin.x) ((target.y : ℤ) - c.aim.origin.y)
    unfold checkedPastRecenterThreshold
    rw [hwidth, hheight, hoffset _ _ htarget.1 horigin.1, hoffset _ _ htarget.2 horigin.2]
    simp only [Option.bind_eq_bind, Option.bind_some, hn]
    rfl
  obtain ⟨past, hpast⟩ := Option.isSome_iff_exists.mp hfits
  rw [hpast, checkedPastRecenterThreshold_eq hpast]

end Bounded

/-! ### What overflows -/

/-- The whole pixels a motion is scaled to, with the remainder of the motions before. -/
def pixels (c : MouseAimController) (carry delta : ℤ) : ℤ :=
  (saturateI64 (saturateI64 (delta * c.inForce.1) + carry)).tdiv c.inForce.2

theorem scaledDelta_pixels (c : MouseAimController) (delta : MouseAimDelta) :
    (c.scaledDelta delta).1 = (c.pixels c.carryX delta.dx, c.pixels c.carryY delta.dy) := by
  rw [scaledDelta_inForce]
  unfold scaleStep pixels
  rw [if_neg c.inForce_pos.ne', if_neg c.inForce_pos.ne']

/-- A gap is over, the press at its end is accepted, and the motion kept back is then too much
for one of the coordinates of the origin; `v` is the motion that is still added to it. -/
def EndsGapTooFar (t : TouchEngine I × MouseAimController) (v : ℤ × ℤ) (now : ℕ) : Prop :=
  ∃ r, t.2.pendingRecenter = some r ∧ r.readyAt ≤ now ∧
    (∃ e, beginContact r.contactId t.2.aim.origin t.1 = .ok () e) ∧
      (i64Max < t.2.aim.origin.x + saturateI64 (r.dx + v.1) ∨
        i64Max < t.2.aim.origin.y + saturateI64 (r.dy + v.2))

/-- The call ends a gap with too much motion kept back. -/
def KeptTooFar (t : TouchEngine I × MouseAimController) : AimCall → Prop
  | .moveBy delta now => delta.isZero = false ∧
      EndsGapTooFar t (t.2.pixels t.2.carryX delta.dx, t.2.pixels t.2.carryY delta.dy) now
  | .tick now => EndsGapTooFar t 0 now
  | _ => False

section InRange

variable {eng : TouchEngine I} {c : MouseAimController}

omit [TouchInjector I] in
theorem inRange_onEngine_bind {α β : Type} {m : EngineM I β} {f : β → CheckedM I α} :
    InRange (unguarded (onEngine m) >>= f) (eng, c) ↔
      ∀ b e, m eng = .ok b e → InRange (f b) (e, c) := by
  rw [inRange_unguarded_bind]
  unfold onEngine zoom
  constructor
  · intro h b e hm
    exact h b (e, c) (by simp only [hm])
  · rintro h b t hok
    cases hm : m eng with
    | error err e => simp only [hm, reduceCtorEq] at hok
    | ok b' e =>
      simp only [hm, EStateM.Result.ok.injEq] at hok
      obtain ⟨rfl, rfl⟩ := hok
      exact h b' e hm

omit [TouchInjector I] in
theorem inRange_update_bind {α : Type} {g : MouseAimController → MouseAimController}
    {f : PUnit → CheckedM I α} :
    InRange (unguarded (update g) >>= f) (eng, c) ↔ InRange (f ⟨⟩) (eng, g c) := Iff.rfl

/-- The motion left over is added to the origin; what comes after does not overflow. -/
theorem checkedApplyResidual_inRange_iff {α : Type} {a : ContactId} {dx dy : ℤ}
    {f : Unit → CheckedM I α} (hf : ∀ t, InRange (f ()) t) :
    InRange (checkedApplyResidual a dx dy >>= f) (eng, c) ↔
      (checkedOffsetPoint c.aim.origin dx dy).isSome = true := by
  unfold checkedApplyResidual
  rw [inRange_bind, and_iff_left fun _ t _ => hf t, inRange_get_bind, Option.isSome_iff_exists]
  simp only [inRange_guarded_bind]
  refine exists_congr fun moved => and_iff_left ?_
  split
  · exact inRange_unguarded _
  · exact inRange_pure _

/-- **A tick overflows exactly if it ends a gap with too much motion kept back.** -/
theorem checkedTick_inRange_iff (h : c.Bounded) (now : ℕ) :
    InRange (checkedTick now) (eng, c) ↔ ¬ EndsGapTooFar (eng, c) 0 now := by
  unfold checkedTick EndsGapTooFar
  rw [inRange_get_bind]
  cases hpending : c.pendingRecenter with
  | some r =>
    obtain ⟨hx, hy⟩ := h.pending r hpending
    have hlow : i64Min ≤ r.dx ∧ i64Min ≤ r.dy := by
      rw [← hx, ← hy]
      unfold saturateI64
      exact ⟨le_max_left _ _, le_max_left _ _⟩
    simp only [hpending, Option.some.injEq, exists_eq_left', Prod.fst_zero, Prod.snd_zero, add_zero,
      hx, hy]
    by_cases hwait : now < r.readyAt
    · rw [if_pos hwait]
      exact iff_of_true (inRange_pure _) fun hends => absurd hwait (not_lt.mpr hends.1)
    · rw [if_neg hwait, inRange_onEngine_bind, and_iff_right (not_lt.mp hwait), not_and, not_or]
      simp only [inRange_update_bind, checkedApplyResidual_inRange_iff, inRange_pure, implies_true,
        checkedOffsetPoint_isSome hlow.1 hlow.2, not_lt]
      constructor
      · rintro hfits ⟨e, he⟩
        exact hfits ⟨⟩ e he
      · intro hfits _ e he
        exact hfits ⟨e, he⟩
  | none =>
    simp only [hpending, reduceCtorEq, false_and, exists_false, not_false_eq_true, iff_true]
    cases c.settings.reaffirmInterval with
    | none => exact inRange_pure _
    | some interval =>
      cases c.activeContactId with
      | none => exact inRange_pure _
      | some contactId =>
        dsimp only
        split
        · exact inRange_pure _
        · cases eng.state.position contactId with
          | none => exact inRange_pure _
          | some position =>
            simp only [inRange_onEngine_bind, inRange_update_bind, inRange_pure, implies_true]

/-- A recentering by a small motion never overflows. -/
theorem checkedRecenter_inRange (h : c.Bounded) (a : ContactId) (p : Point) {dx dy : ℤ}
    (hx : IsSmall dx) (hy : IsSmall dy) (now : ℕ) :
    InRange (checkedRecenter a p dx dy now) (eng, c) := by
  have hfits := checkedOffsetPoint_of_small (h.inside c.aim.origin_inside) hx hy
  unfold checkedRecenter
  rw [inRange_get_bind]
  dsimp only
  split
  · simp only [inRange_onEngine_bind, inRange_update_bind]
    intro _ e _
    refine (checkedApplyResidual_inRange_iff fun t => ?_).mpr ?_
    · rw [inRange_unguarded_bind]
      exact fun _ _ _ => inRange_pure _
    · rw [hfits]
      rfl
  · simp only [inRange_onEngine_bind, inRange_update_bind, inRange_pure, implies_true]

/-- **A motion overflows exactly if it ends a gap with too much motion kept back.** -/
theorem checkedMoveBy_inRange_iff (h : c.Bounded)
    (hpositions : ∀ d p, eng.state.position d = some p → p.InU32) (delta : MouseAimDelta)
    (now : ℕ) : InRange (checkedMoveBy delta now) (eng, c) ↔ ¬ KeptTooFar (eng, c) (.moveBy delta now) := by
  have hsmall : IsSmall (c.scaledDelta delta).1.1 ∧ IsSmall (c.scaledDelta delta).1.2 := by
    rw [scaledDelta_inForce]
    exact ⟨scaleStep_small h.inForce, scaleStep_small h.inForce⟩
  change _ ↔ ¬ (delta.isZero = false ∧
    EndsGapTooFar (eng, c) (c.pixels c.carryX delta.dx, c.pixels c.carryY delta.dy) now)
  rw [← scaledDelta_pixels, checkedMoveBy, inRange_get_bind]
  dsimp only
  split
  · next hignored =>
    refine iff_of_true (inRange_pure _) ?_
    rintro ⟨hmoves, r, hpending, -⟩
    have hactive : c.isActive = true := by
      rw [isActive, show c.pendingRecenter = some r from hpending, Option.isSome_some, Bool.or_true]
    simp [hmoves, hactive] at hignored
  · next hfollowed =>
    have hmoves : delta.isZero = false := by
      simp only [Bool.or_eq_true, not_or, Bool.not_eq_true] at hfollowed
      exact hfollowed.1
    rw [and_iff_right hmoves]
    generalize hscaled : c.scaledDelta delta = result at hsmall ⊢
    obtain ⟨⟨dx, dy⟩, scaled⟩ := result
    obtain ⟨x, y, rfl⟩ : ∃ x y, scaled = { c with carryX := x, carryY := y } :=
      ⟨_, _, congrArg Prod.snd hscaled ▸ c.scaledDelta_fields delta⟩
    simp only [inRange_guarded_bind, checkedScaledDelta_fits, hscaled, Option.some.injEq,
      exists_eq_left', inRange_update_bind]
    cases hpending : c.pendingRecenter with
    | some r =>
      -- the motion is added to what is kept back, and the gap may be over
      simp only [inRange_update_bind]
      have hqueued : Bounded { c with
          carryX := x, carryY := y
          pendingRecenter := some { r with
            dx := saturateI64 (r.dx + dx), dy := saturateI64 (r.dy + dy) } } := by
        refine ⟨h.right, h.bottom, h.denominator, fun q hq => ?_⟩
        obtain rfl := Option.some.inj hq
        exact ⟨saturateI64_idem _, saturateI64_idem _⟩
      rw [checkedTick_inRange_iff hqueued]
      unfold EndsGapTooFar
      simp only [hpending, Option.some.injEq, exists_eq_left', Prod.fst_zero, Prod.snd_zero,
        add_zero, saturateI64_idem]
    | none =>
      have hno : ¬ EndsGapTooFar (eng, c) (dx, dy) now := by
        rintro ⟨r, hr, -⟩
        rw [show c.pendingRecenter = some r from hr] at hpending
        cases hpending
      refine iff_of_true ?_ hno
      dsimp only
      cases c.activeContactId with
      | none => exact inRange_pure _
      | some contactId =>
        cases hcurrent : eng.state.position contactId with
        | none =>
          simp only [hcurrent]
          exact inRange_pure _
        | some current =>
          have hfits := checkedOffsetPoint_of_small (hpositions _ _ hcurrent) hsmall.1 hsmall.2
          have htarget : (c.aim.region.clamp (offsetPoint current dx dy)).InU32 :=
            h.inside (c.aim.clamp_inside _)
          simp only [hcurrent, inRange_guarded_bind, hfits, Option.some.injEq, exists_eq_left']
          split
          · exact inRange_pure _
          · simp only [inRange_guarded_bind, h.pastRecenterThreshold htarget, Option.some.injEq,
              exists_eq_left']
            split
            · refine checkedRecenter_inRange ?_ contactId current hsmall.1 hsmall.2 now
              exact ⟨h.right, h.bottom, h.denominator, fun _ hr => by cases hr⟩
            · simp only [inRange_onEngine_bind, inRange_update_bind, inRange_pure, implies_true]

end InRange

/-! ### What every call keeps -/

end MouseAimController

/-- The positions of the contacts are points of the protocol. -/
def TouchEngine.InU32 {I : Type} (engine : TouchEngine I) : Prop :=
  ∀ d p, engine.state.position d = some p → p.InU32

section Engine

variable {I : Type} [TouchInjector I]

/-- A frame whose touches are such points keeps them. -/
theorem TouchEngine.submit_inU32 {frame : TouchFrame}
    (h : ∀ event ∈ frame.events, ∀ p, event.after = some p → p.InU32) :
    Preserves TouchEngine.InU32 (submit frame : EngineM I Unit) := by
  intro eng heng
  have hframe : ∀ (events : List TouchEvent) (st : TouchState),
      (∀ event ∈ events, ∀ p, event.after = some p → p.InU32) →
      (∀ d p, st.position d = some p → p.InU32) →
      ∀ d p, (events.foldl TouchState.applyEvent st).position d = some p → p.InU32 := by
    intro events
    induction events with
    | nil => exact fun _ _ hst => hst
    | cons event events ih =>
      intro st hevents hst
      obtain ⟨hevent, hevents⟩ := List.forall_mem_cons.mp hevents
      refine ih (st.applyEvent event) hevents fun d p hp => ?_
      rw [TouchState.position_applyEvent] at hp
      split at hp
      · exact hevent p hp
      · exact hst d p hp
  refine wp_mono (submit_commits frame) ?_ ?_
  · intro _ e he d p hp
    rw [he] at hp
    exact hframe frame.events eng.state h heng d p hp
  · intro _ e he d p hp
    rw [he] at hp
    exact heng d p hp

theorem TouchEngine.beginContact_inU32 (a : ContactId) {p : Point} (hp : p.InU32) :
    Preserves TouchEngine.InU32 (beginContact a p : EngineM I Unit) :=
  submit_inU32 fun event hevent q hq => by
    obtain rfl := List.mem_singleton.mp hevent
    obtain rfl := Option.some.inj hq
    exact hp

theorem TouchEngine.moveContact_inU32 (a : ContactId) {p : Point} (hp : p.InU32) :
    Preserves TouchEngine.InU32 (moveContact a p : EngineM I Unit) :=
  submit_inU32 fun event hevent q hq => by
    obtain rfl := List.mem_singleton.mp hevent
    obtain rfl := Option.some.inj hq
    exact hp

theorem TouchEngine.cancelContact_inU32 (a : ContactId) (p : Point) :
    Preserves TouchEngine.InU32 (cancelContact a p : EngineM I Unit) :=
  submit_inU32 fun event hevent q hq => by
    obtain rfl := List.mem_singleton.mp hevent
    cases hq

theorem TouchEngine.endContact_inU32 (a : ContactId) :
    Preserves TouchEngine.InU32 (endContact a : EngineM I Unit) := by
  refine .read fun eng heng => ?_
  cases eng.state.position a with
  | none => exact preserves_throw _
  | some p =>
    refine submit_inU32 fun event hevent q hq => ?_
    obtain rfl := List.mem_singleton.mp hevent
    cases hq

theorem TouchEngine.handOver_inU32 (a b : ContactId) {p : Point} (q : Point) (hp : p.InU32) :
    Preserves TouchEngine.InU32 (submit (Contract.handOverFrame a p b q) : EngineM I Unit) := by
  refine submit_inU32 fun event hevent r hr => ?_
  rcases List.mem_cons.mp hevent with rfl | hevent
  · obtain rfl := Option.some.inj hr
    exact hp
  · obtain rfl := List.mem_singleton.mp hevent
    cases hr

end Engine

namespace MouseAimController

variable {I : Type} [TouchInjector I]

section Keeps

variable {α : Type}

/-- Everything is in the range of its type. -/
abbrev Sound (t : TouchEngine I × MouseAimController) : Prop := t.1.InU32 ∧ t.2.Bounded

omit [TouchInjector I] in
theorem onEngine_sound {m : EngineM I α} (hm : Preserves TouchEngine.InU32 m) :
    Preserves Sound (onEngine m) :=
  hm.zoom (fun _ ht => ht.1) fun _ _ ht he => ⟨he, ht.2⟩

omit [TouchInjector I] in
theorem update_sound {f : MouseAimController → MouseAimController}
    (hf : ∀ c, c.Bounded → (f c).Bounded) :
    Preserves (Sound : TouchEngine I × MouseAimController → Prop) (update f) :=
  preserves_modify fun _ ht => ⟨ht.1, hf _ ht.2⟩

theorem applyResidual_sound (a : ContactId) (dx dy : ℤ) :
    Preserves Sound (applyResidual a dx dy : ControllerM I Unit) :=
  .read fun ⟨_, c⟩ ⟨_, hc⟩ => .ite
    (fun _ => onEngine_sound (moveContact_inU32 _ (hc.inside (c.aim.clamp_inside _))))
    fun _ => preserves_pure _

theorem activate_sound (now : ℕ) :
    Preserves Sound (activate now : ControllerM I MouseAimUpdate) :=
  .read fun ⟨_, c⟩ ⟨_, hc⟩ => .ite (fun _ => preserves_pure _) fun _ =>
    .bind (onEngine_sound (beginContact_inU32 _ (hc.inside c.aim.origin_inside))) fun _ =>
      .bind (update_sound fun _ h => ⟨h.right, h.bottom, h.denominator, h.pending⟩)
        fun _ => preserves_pure _

theorem tick_sound (now : ℕ) : Preserves Sound (tick now : ControllerM I MouseAimUpdate) := by
  refine .read fun t ht => ?_
  obtain ⟨eng, c⟩ := t
  obtain ⟨heng, hc⟩ := ht
  cases hpending : c.pendingRecenter with
  | some r =>
    simp only [hpending]
    exact .ite (fun _ => preserves_pure _) fun _ =>
      .bind (onEngine_sound (beginContact_inU32 _ (hc.inside c.aim.origin_inside))) fun _ =>
        .bind (update_sound fun _ h => ⟨h.right, h.bottom, h.denominator, by simp⟩) fun _ =>
          .bind (applyResidual_sound _ _ _) fun _ => preserves_pure _
  | none =>
    simp only [hpending]
    split
    · refine .ite (fun _ => preserves_pure _) fun _ => ?_
      split
      · exact preserves_pure _
      · next position hposition =>
        exact .bind (onEngine_sound (moveContact_inU32 _ (heng _ _ hposition))) fun _ =>
          .bind (update_sound fun _ h => ⟨h.right, h.bottom, h.denominator, h.pending⟩)
            fun _ => preserves_pure _
    · exact preserves_pure _

theorem recenter_sound (a : ContactId) (p : Point) {dx dy : ℤ} (hx : saturateI64 dx = dx)
    (hy : saturateI64 dy = dy) (now : ℕ) :
    Preserves Sound (recenter a p dx dy now : ControllerM I MouseAimUpdate) := by
  refine .read fun ⟨eng, c⟩ ⟨_, hc⟩ => ?_
  have hrest : Preserves Sound (do
      update fun d => { d with recenterCount := min (d.recenterCount + 1) u64Max }
      return MouseAimUpdate.recentered : ControllerM I MouseAimUpdate) :=
    .bind (update_sound fun _ h => ⟨h.right, h.bottom, h.denominator, h.pending⟩)
      fun _ => preserves_pure _
  refine .ite (fun _ => ?_) fun _ => ?_
  · exact .bind (onEngine_sound (handOver_inU32 _ _ _ (hc.inside c.aim.origin_inside))) fun _ =>
      .bind (update_sound fun _ h => ⟨h.right, h.bottom, h.denominator, h.pending⟩) fun _ =>
        .bind (applyResidual_sound _ _ _) fun _ => hrest
  · refine .bind (onEngine_sound (endContact_inU32 _)) fun _ => .bind (update_sound ?_) fun _ => hrest
    refine fun d h => ⟨h.right, h.bottom, h.denominator, fun r hr => ?_⟩
    obtain rfl := Option.some.inj hr
    exact ⟨hx, hy⟩

theorem moveBy_sound (delta : MouseAimDelta) (now : ℕ) :
    Preserves Sound (moveBy delta now : ControllerM I MouseAimUpdate) := by
  refine .read fun ⟨eng, c⟩ ⟨heng, hc⟩ => .ite (fun _ => preserves_pure _) fun _ => ?_
  have hx : saturateI64 (c.scaledDelta delta).1.1 = (c.scaledDelta delta).1.1 := by
    rw [scaledDelta_inForce]
    exact (scaleStep_bounds c.inForce_pos).1
  have hy : saturateI64 (c.scaledDelta delta).1.2 = (c.scaledDelta delta).1.2 := by
    rw [scaledDelta_inForce]
    exact (scaleStep_bounds c.inForce_pos).1
  have hscaled : (c.scaledDelta delta).2.Bounded := by
    rw [scaledDelta_fields]
    exact ⟨hc.right, hc.bottom, hc.denominator, hc.pending⟩
  generalize c.scaledDelta delta = result at hx hy hscaled
  obtain ⟨⟨dx, dy⟩, scaled⟩ := result
  refine .bind (update_sound fun _ _ => hscaled) fun _ => ?_
  dsimp only
  split
  · refine .bind (update_sound ?_) fun _ => tick_sound now
    refine fun d h => ⟨h.right, h.bottom, h.denominator, fun r hr => ?_⟩
    obtain rfl := Option.some.inj hr
    exact ⟨saturateI64_idem _, saturateI64_idem _⟩
  · split
    · exact preserves_pure _
    · split
      · exact preserves_pure _
      · refine .ite (fun _ => preserves_pure _) fun _ => .ite (fun _ => recenter_sound _ _ hx hy now)
          fun _ => ?_
        exact .bind (onEngine_sound (moveContact_inU32 _ (hc.inside (c.aim.clamp_inside _)))) fun _ =>
          .bind (update_sound fun _ h => ⟨h.right, h.bottom, h.denominator, h.pending⟩)
            fun _ => preserves_pure _

theorem deactivate_sound : Preserves Sound (deactivate : ControllerM I MouseAimUpdate) := by
  refine .read fun ⟨eng, c⟩ _ => .bind (update_sound fun _ h =>
    ⟨h.right, h.bottom, h.denominator, h.pending⟩) fun _ => ?_
  have hrest (lifted : Bool) : Preserves Sound (do
      update fun d => { d with
        pendingRecenter := none, adsActive := false, lastReaffirmAt := none, carryX := 0, carryY := 0 }
      return if lifted || c.pendingRecenter.isSome then MouseAimUpdate.deactivated else .ignored :
        ControllerM I MouseAimUpdate) :=
    .bind (update_sound fun _ h => ⟨h.right, h.bottom, h.denominator, by simp⟩)
      fun _ => preserves_pure _
  dsimp only
  split
  · exact .ite (fun _ => .bind (onEngine_sound (endContact_inU32 _)) fun _ => hrest true)
      fun _ => hrest false
  · exact hrest false

theorem cancel_sound : Preserves Sound (cancel : ControllerM I Bool) := by
  refine .read fun ⟨eng, c⟩ _ => .bind (update_sound fun _ h =>
    ⟨h.right, h.bottom, h.denominator, by simp⟩) fun _ => ?_
  have hrest (lifted : Bool) : Preserves Sound (do
      update fun d => { d with adsActive := false, lastReaffirmAt := none, carryX := 0, carryY := 0 }
      return lifted || c.pendingRecenter.isSome : ControllerM I Bool) :=
    .bind (update_sound fun _ h => ⟨h.right, h.bottom, h.denominator, h.pending⟩)
      fun _ => preserves_pure _
  dsimp only
  split
  · split
    · exact .bind (onEngine_sound (cancelContact_inU32 _ _)) fun _ => hrest true
    · exact hrest false
  · exact hrest false

theorem Bounded.setAdsActive {c : MouseAimController} (h : c.Bounded) (active : Bool) :
    (c.setAdsActive active).Bounded := by
  obtain ⟨haim, -, -, -, hpending⟩ := c.setAdsActive_fields active
  refine ⟨haim ▸ h.right, haim ▸ h.bottom, haim ▸ h.denominator, ?_⟩
  rw [hpending]
  exact h.pending

theorem perform_sound (call : AimCall) : Preserves Sound (perform call : ControllerM I Unit) := by
  have hdiscard : ∀ {β : Type} {m : ControllerM I β}, Preserves Sound m →
      Preserves Sound (discard m) := fun hm t ht => (wp_map _ _).mpr (hm t ht)
  cases call with
  | activate now => exact hdiscard (activate_sound now)
  | toggle now =>
    exact hdiscard (.read fun _ _ => .ite (fun _ => deactivate_sound) fun _ => activate_sound now)
  | moveBy delta now => exact hdiscard (moveBy_sound delta now)
  | tick now => exact hdiscard (tick_sound now)
  | setAdsActive active => exact update_sound fun c hc => hc.setAdsActive active
  | deactivate => exact hdiscard deactivate_sound
  | cancel => exact hdiscard cancel_sound

end Keeps

/-! ### Calls and runs -/

section Runs

variable {eng : TouchEngine I} {c : MouseAimController}

/-- **A call overflows exactly if it ends a gap with too much motion kept back.** -/
theorem checkedPerform_inRange_iff (call : AimCall) (h : Sound (eng, c)) :
    InRange (checkedPerform call) (eng, c) ↔ ¬ KeptTooFar (eng, c) call := by
  obtain ⟨heng, hc⟩ := h
  cases call with
  | moveBy delta now => exact inRange_map.trans (checkedMoveBy_inRange_iff hc heng delta now)
  | tick now => exact inRange_map.trans (checkedTick_inRange_iff hc now)
  | activate now => exact iff_of_true (inRange_unguarded _) id
  | toggle now => exact iff_of_true (inRange_unguarded _) id
  | setAdsActive active => exact iff_of_true (inRange_unguarded _) id
  | deactivate => exact iff_of_true (inRange_unguarded _) id
  | cancel => exact iff_of_true (inRange_unguarded _) id

theorem checkedAttempted_inRange {call : AimCall} {t : TouchEngine I × MouseAimController} :
    InRange (checkedAttempted call) t ↔ InRange (checkedPerform call) t := by
  unfold checkedAttempted
  rw [inRange_bind, and_iff_left fun _ t _ => inRange_pure _, inRange_attemptWatched]

theorem attempted_sound (call : AimCall) :
    Preserves Sound (attempted call : ControllerM I Unit) :=
  .bind (perform_sound call).attempt fun _ => preserves_pure _

end Runs

end MouseAimController

/-! ### Accepted bindings -/

/-- A sensitivity is a number of thousandths. -/
theorem materializeMouseSensitivity_denominator {value : ℚ} {sensitivity : MouseAimSensitivity}
    (h : materializeMouseSensitivity value = some sensitivity) : sensitivity.denominator = 1000 := by
  unfold materializeMouseSensitivity at h
  split at h
  · cases h
  · simp only at h
    split at h
    · cases h
    · unfold MouseAimSensitivity.new at h
      split at h
      · cases h
      · exact (Option.some.inj h) ▸ rfl

/-- An aim gets the sensitivity it is made with. -/
theorem MouseAim.new_sensitivity {contactId : ContactId} {origin : Point} {region : MouseAimRegion}
    {resolution : Resolution} {sensitivity : MouseAimSensitivity} {aim : MouseAim}
    (h : MouseAim.new contactId origin region resolution sensitivity = .ok aim) :
    aim.sensitivity = sensitivity := by
  simp only [MouseAim.new, bind, Except.bind] at h
  split at h
  · cases h
  · split at h
    · obtain rfl := Except.ok.inj h
      rfl
    · cases h

/-- The aim of an accepted binding is on the surface, and its sensitivity in thousandths. -/
theorem materializeAction_mouseAim {binding : BindingV2} {resolution : Resolution}
    {next next' : ContactId} {aim : MouseAim} {settings : MouseAimSettings}
    (h : materializeAction binding resolution next = .ok (.mouseAim aim settings, next')) :
    aim.region.right < resolution.width ∧ aim.region.bottom < resolution.height ∧
      aim.sensitivity.denominator = 1000 := by
  unfold materializeAction at h
  cases hb : binding.action with
  | tap point | hold point =>
    simp only [hb, Except.ok.injEq, Prod.mk.injEq, reduceCtorEq, false_and] at h
  | virtualJoystick center radius deadZone mode reaffirmMs =>
    simp only [hb, allocateContactId, bind_eq_ok, orStop_eq_ok, pure, Except.pure, Except.ok.injEq,
      Prod.mk.injEq, reduceCtorEq, false_and, and_false, exists_false] at h
  | macroSteps steps => simp only [hb, reduceCtorEq] at h
  | mouseAim region sensitivity toggleKey threshold gap ads reaffirmMs =>
    simp only [hb, allocateContactId, bind_eq_ok, orStop_eq_ok, pure, Except.pure, Except.ok.injEq,
      Prod.mk.injEq, RuntimeControlAction.mouseAim.injEq] at h
    obtain ⟨width, -, height, -, speed, hspeed, aim', haim, scale, -, ⟨rfl, -⟩, -⟩ := h
    obtain ⟨hright, hbottom⟩ := MouseAim.new_region haim
    refine ⟨hright, hbottom, ?_⟩
    rw [MouseAim.new_sensitivity haim]
    cases hs : materializeMouseSensitivity sensitivity with
    | none => simp only [hs, reduceCtorEq] at hspeed
    | some speed' =>
      simp only [hs, Except.ok.injEq] at hspeed
      exact hspeed ▸ materializeMouseSensitivity_denominator hs

namespace MouseAimController

variable {I : Type} [TouchInjector I]

omit [TouchInjector I] in
/-- The controller of an accepted binding starts in range. -/
theorem new_sound {profile : ProfileV2} {resolution : Resolution}
    {plan : RuntimeControlPlan} {control : RuntimeControlBinding} {aim : MouseAim}
    {settings : MouseAimSettings} {c : MouseAimController} {eng : TouchEngine I}
    (hwidth : resolution.width ≤ u32Max) (hheight : resolution.height ≤ u32Max)
    (hplan : RuntimeControlPlan.fromProfileV2 profile resolution = .ok plan)
    (hcontrol : control ∈ plan.controls) (haction : control.action = .mouseAim aim settings)
    (hnew : MouseAimController.new aim settings = .ok c) (heng : eng.InU32) : Sound (eng, c) := by
  obtain ⟨binding, -, hreal⟩ :=
    forall₂_exists_left (fromProfileV2_realizes hplan).controls hcontrol
  obtain ⟨next, next', hmade⟩ := hreal.action
  rw [haction] at hmade
  obtain ⟨hright, hbottom, hden⟩ := materializeAction_mouseAim hmade
  unfold MouseAimController.new at hnew
  split_ifs at hnew
  obtain rfl := Except.ok.inj hnew
  refine ⟨heng, hright.le.trans hwidth, hbottom.le.trans hheight, ?_, by simp⟩
  change 1 < aim.sensitivity.denominator
  omega

/-- **The arithmetic of the aim controller.**  A run of the controller of an accepted aim binding
stays in the ranges of its integer types if and only if no call of the run ends a gap with more
motion kept back than fits; and then the checks change nothing. -/
theorem aim_arithmetic_in_range_iff {profile : ProfileV2} {resolution : Resolution}
    {plan : RuntimeControlPlan} {control : RuntimeControlBinding} {aim : MouseAim}
    {settings : MouseAimSettings} {c : MouseAimController} {eng : TouchEngine I}
    (hwidth : resolution.width ≤ u32Max) (hheight : resolution.height ≤ u32Max)
    (hplan : RuntimeControlPlan.fromProfileV2 profile resolution = .ok plan)
    (hcontrol : control ∈ plan.controls) (haction : control.action = .mouseAim aim settings)
    (hnew : MouseAimController.new aim settings = .ok c) (heng : eng.InU32)
    (calls : List AimCall) :
    (InRange (runAll checkedAttempted calls) (eng, c) ↔
      AllSteps attempted (fun t call => ¬ KeptTooFar t call) calls (eng, c)) ∧
    (AllSteps attempted (fun t call => ¬ KeptTooFar t call) calls (eng, c) →
      ∃ t, runAll checkedAttempted calls (eng, c) = .ok () t ∧
        runAll attempted calls (eng, c) = .ok () t) := by
  have hsound := new_sound hwidth hheight hplan hcontrol haction hnew heng
  have hiff : InRange (runAll checkedAttempted calls) (eng, c) ↔
      AllSteps attempted (fun t call => ¬ KeptTooFar t call) calls (eng, c) := by
    rw [runAll_inRange_iff checkedAttempted_guards]
    refine allSteps_congr attempted_sound (fun t call ht => ?_) hsound
    exact checkedAttempted_inRange.trans (checkedPerform_inRange_iff call ht)
  refine ⟨hiff, fun hsteps => ?_⟩
  have hsame := Guards.runAll checkedAttempted_guards calls (eng, c) (hiff.mpr hsteps)
  have hreturns : wp (runAll attempted calls) (fun _ _ => True) (fun _ _ => False) (eng, c) :=
    wp_runAll (fun call t _ => wp_attempted wp_true) calls trivial
  obtain ⟨⟨⟩, t, hrun, -⟩ := wp_returns hreturns
  refine ⟨t, ?_, hrun⟩
  rw [hsame]
  unfold unguarded mapError
  rw [hrun]

/-! ### A motion that is kept back too long -/

section Gap

variable {eng : TouchEngine I} {c : MouseAimController}

/-- **During a gap a motion is kept back.** -/
theorem moveBy_kept {r : PendingRecenter} {delta : MouseAimDelta} {now : ℕ}
    (hpending : c.pendingRecenter = some r) (hmoves : delta.isZero = false)
    (hwait : now < r.readyAt) :
    moveBy delta now (eng, c) = .ok .ignored (eng, { (c.scaledDelta delta).2 with
      pendingRecenter := some { r with
        dx := saturateI64 (r.dx + (c.scaledDelta delta).1.1)
        dy := saturateI64 (r.dy + (c.scaledDelta delta).1.2) } }) := by
  have hactive : c.isActive = true := by
    rw [isActive, hpending, Option.isSome_some, Bool.or_true]
  have hmove : wp (moveBy delta now) (fun u t => u = .ignored ∧ t = (eng,
      { (c.scaledDelta delta).2 with
        pendingRecenter := some { r with
          dx := saturateI64 (r.dx + (c.scaledDelta delta).1.1)
          dy := saturateI64 (r.dy + (c.scaledDelta delta).1.2) } }))
      (fun _ _ => False) (eng, c) := by
    simp only [moveBy, wp_bind, wp_get, wp_ite, wp_pure, hmoves, hactive, Bool.not_true,
      Bool.or_false, Bool.false_eq_true, if_false, wp_update, hpending, tick, hwait, if_true]
    exact ⟨trivial, trivial⟩
  obtain ⟨u, t, hrun, rfl, rfl⟩ := wp_returns hmove
  exact hrun

/-- Motions of `k` whole pixels each, without a remainder, add up during a gap. -/
theorem moves_kept {r : PendingRecenter} {delta : MouseAimDelta} {now : ℕ} {k : ℤ} (hk : 0 ≤ k)
    (hscaled : c.scaledDelta delta = ((k, 0), c)) (hmoves : delta.isZero = false)
    (hwait : now < r.readyAt) (hdy : r.dy = 0) (n : ℕ) {d : ℤ} (hd : 0 ≤ d ∧ d ≤ i64Max) :
    runAll attempted (List.replicate n (.moveBy delta now))
        (eng, { c with pendingRecenter := some { r with dx := d } }) =
      .ok () (eng, { c with pendingRecenter := some { r with dx := saturateI64 (d + n * k) } }) := by
  induction n generalizing d with
  | zero =>
    have hsame : saturateI64 (d + (0 : ℕ) * k) = d := by
      unfold saturateI64 i64Min
      rw [Nat.cast_zero, zero_mul, add_zero, min_eq_left hd.2, max_eq_right (by omega)]
    rw [hsame]
    rfl
  | succ n ih =>
    have hfirst : attempted (.moveBy delta now)
        (eng, { c with pendingRecenter := some { r with dx := d } }) =
          .ok () (eng, { c with pendingRecenter := some { r with dx := saturateI64 (d + k) } }) := by
      have hsame : ({ c with pendingRecenter := some { r with dx := d } } : MouseAimController).scaledDelta
          delta = ((k, 0), { c with pendingRecenter := some { r with dx := d } }) := by
        change ((c.scaledDelta delta).1, { (c.scaledDelta delta).2 with
          pendingRecenter := some { r with dx := d } }) = _
        rw [hscaled]
      have hmove := @moveBy_kept I _ eng { c with pendingRecenter := some { r with dx := d } }
        { r with dx := d } delta now rfl hmoves hwait
      rw [hsame] at hmove
      have hzero : saturateI64 (r.dy + 0) = r.dy := by
        rw [hdy]
        rfl
      simp only [hzero] at hmove
      have hattempt : wp (attempted (.moveBy delta now))
          (fun _ t => t = (eng, { c with
            pendingRecenter := some { r with dx := saturateI64 (d + k) } }))
          (fun _ _ => False) (eng, { c with pendingRecenter := some { r with dx := d } }) :=
        wp_attempted ((wp_map _ _).mpr (wp_of_ok hmove rfl))
      obtain ⟨⟨⟩, t, hrun, rfl⟩ := wp_returns hattempt
      exact hrun
    have hnext : 0 ≤ saturateI64 (d + k) ∧ saturateI64 (d + k) ≤ i64Max := by
      unfold saturateI64 i64Min i64Max
      omega
    have hsum : saturateI64 (saturateI64 (d + k) + n * k) = saturateI64 (d + (n + 1 : ℕ) * k) := by
      have hmotion : 0 ≤ (n : ℤ) * k := by positivity
      rw [Nat.cast_succ, add_mul, one_mul]
      unfold saturateI64 i64Min i64Max
      omega
    rw [List.replicate_succ, runAll]
    simp only [bind, EStateM.bind, hfirst]
    rw [ih hnext, hsum]

end Gap

/-- An aim with the largest sensitivity there is, and a gap. -/
def fastAimer : ProfileV2 where
  schemaVersion := 2
  name := "fast aimer"
  packageName := "com.example.aims"
  layers := []
  bindings := [⟨"aim", none, none, .mouseMove,
    .mouseAim ⟨1/10, 1/10, 4/5, 4/5⟩ (4294967295/1000) none (9/10) 5 none none⟩]

/-- A fast motion to the right, of `fastPixels` whole pixels. -/
def fastMotion : MouseAimDelta := ⟨2147483000, 0⟩

def fastPixels : ℤ := 9223369251568485

/-- The controller waits for the end of the gap, which began with a fast motion. -/
def inFastGap (t : TouchEngine Unit × MouseAimController) : Bool :=
  decide (t.2.pendingRecenter = some ⟨2, 1, 5000000, fastPixels, 0⟩ ∧
    (t.2.scaledDelta fastMotion).1 = (fastPixels, 0) ∧
    (t.2.scaledDelta fastMotion).2.carryX = t.2.carryX ∧
    (t.2.scaledDelta fastMotion).2.carryY = t.2.carryY ∧ 0 < t.2.aim.origin.x) &&
  returnsWith (fun _ => true) (beginContact 2 t.2.aim.origin) t.1

/-- The aim of `fastAimer` has a controller. -/
theorem fastAimer_controller : ∃ plan control aim settings c,
    RuntimeControlPlan.fromProfileV2 fastAimer ⟨1280, 720⟩ = .ok plan ∧ control ∈ plan.controls ∧
    control.action = .mouseAim aim settings ∧ MouseAimController.new aim settings = .ok c ∧
    returnsWith inFastGap (runAll attempted [.activate 0, .moveBy fastMotion 0])
      (TouchEngine.new (), c) = true := by
  have hcheck : (match RuntimeControlPlan.fromProfileV2 fastAimer ⟨1280, 720⟩ with
      | .ok plan => plan.controls.any fun control =>
        match control.action with
        | .mouseAim aim settings =>
          match MouseAimController.new aim settings with
          | .ok c => returnsWith inFastGap (runAll attempted [.activate 0, .moveBy fastMotion 0])
              (TouchEngine.new (), c)
          | .error _ => false
        | _ => false
      | .error _ => false) = true := by decide +kernel
  split at hcheck
  · next plan hplan =>
    obtain ⟨control, hcontrol, hcheck⟩ := List.any_eq_true.mp hcheck
    split at hcheck
    · next aim settings haction =>
      split at hcheck
      · next c hnew => exact ⟨plan, control, aim, settings, c, hplan, hcontrol, haction, hnew, hcheck⟩
      · cases hcheck
    · cases hcheck
  · cases hcheck

theorem new_inU32 : (TouchEngine.new ()).InU32 := by
  intro d p hp
  rw [show (TouchEngine.new ()).state.position d = none from TouchState.position_empty d] at hp
  cases hp

theorem fast_aim_in_range_iff : ∃ plan control aim settings c,
    RuntimeControlPlan.fromProfileV2 fastAimer ⟨1280, 720⟩ = .ok plan ∧ control ∈ plan.controls ∧
    control.action = .mouseAim aim settings ∧ MouseAimController.new aim settings = .ok c ∧
    (InRange (runAll checkedAttempted [.activate 0, .moveBy fastMotion 0, .tick 5000000])
        (TouchEngine.new (), c) ↔
      AllSteps attempted (fun t call => ¬ KeptTooFar t call)
        [.activate 0, .moveBy fastMotion 0, .tick 5000000] (TouchEngine.new (), c)) := by
  obtain ⟨plan, control, aim, settings, c, hplan, hcontrol, haction, hnew, -⟩ := fastAimer_controller
  exact ⟨plan, control, aim, settings, c, hplan, hcontrol, haction, hnew,
    (aim_arithmetic_in_range_iff (by decide) (by decide) hplan hcontrol haction hnew new_inU32 _).1⟩

/-- **A gap long enough for a thousand fast motions** ends with an overflow. -/
theorem fast_aim_overflows : ∃ plan control aim settings c t,
    RuntimeControlPlan.fromProfileV2 fastAimer ⟨1280, 720⟩ = .ok plan ∧ control ∈ plan.controls ∧
    control.action = .mouseAim aim settings ∧ MouseAimController.new aim settings = .ok c ∧
    runAll attempted (.activate 0 :: .moveBy fastMotion 0 ::
      List.replicate 1000 (.moveBy fastMotion 0)) (TouchEngine.new (), c) = .ok () t ∧
    ¬ InRange (checkedPerform (.tick 5000000)) t := by
  obtain ⟨plan, control, aim, settings, c, hplan, hcontrol, haction, hnew, hgap⟩ :=
    fastAimer_controller
  obtain ⟨⟨⟩, ⟨eng, d⟩, hstart, hgap⟩ := exists_of_returnsWith hgap
  obtain ⟨hd, hpress⟩ := Bool.and_eq_true_iff.mp hgap
  obtain ⟨hpending, hpixels, hx, hy, horigin⟩ := of_decide_eq_true hd
  obtain ⟨⟨⟩, e, hpress, -⟩ := exists_of_returnsWith hpress
  have hscaled : d.scaledDelta fastMotion = ((fastPixels, 0), d) := by
    refine Prod.ext hpixels ?_
    rw [scaledDelta_fields, show (d.scaledDelta fastMotion).2.carryX = d.carryX from hx,
      show (d.scaledDelta fastMotion).2.carryY = d.carryY from hy]
  have hkept := @moves_kept _ _ eng d ⟨2, 1, 5000000, fastPixels, 0⟩ fastMotion 0 fastPixels
    (by decide) hscaled (by decide) (by decide) rfl 1000 fastPixels (by decide)
  have hsame : { d with pendingRecenter := some ⟨2, 1, 5000000, fastPixels, 0⟩ } = d := by
    rw [← show d.pendingRecenter = some ⟨2, 1, 5000000, fastPixels, 0⟩ from hpending]
  rw [hsame] at hkept
  have hrun := (runAll_append hstart).trans hkept
  refine ⟨plan, control, aim, settings, c, _, hplan, hcontrol, haction, hnew, hrun, ?_⟩
  have hsound := wp_ok (preserves_runAll (fun call _ => attempted_sound call) (TouchEngine.new (), c)
    (new_sound (by decide) (by decide) hplan hcontrol haction hnew new_inU32)) hrun
  rw [checkedPerform_inRange_iff _ hsound, not_not]
  -- the motion kept back is all that an `i64` holds
  refine ⟨_, rfl, le_rfl, ⟨e, hpress⟩, .inl ?_⟩
  have hx : 0 < d.aim.origin.x := horigin
  change i64Max < d.aim.origin.x + saturateI64 (saturateI64 (fastPixels + 1000 * fastPixels) + 0)
  rw [show saturateI64 (saturateI64 (fastPixels + 1000 * fastPixels) + 0) = i64Max by decide]
  omega

end MouseAimController

end Wroid
