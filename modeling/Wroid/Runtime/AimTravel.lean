import Wroid.Runtime.AimRuns

/-!
# Aim motion is conserved

How far the mouse moved and how far the touches went are two records of the same motion.  The
touches are read off the frames: each press starts a stroke, and a stroke goes from where its
contact was pressed to where it was last.  The mouse is the sum of the raw motions.

Between the two stand a scale, a remainder that is carried over, and the motion kept back
while a recentering waits.  As long as nothing saturates and no touch is clamped at the edge,
nothing is lost and nothing is counted twice, however often the contacts take turns.

## Main definitions

* `Stroke`, `strokesOf`, `Stroke.travel` — the strokes of some frames, and how far they went.
* `MouseAimController.scale`, `exact` — the scale in force, and the steps without saturation
  and clamping.
* `Balanced` — **the law of conservation**.

## Main results

* `scaledDelta_exact` — what one motion adds to the remainder and to the whole pixels.
* `moveBy_conserves`, `tick_conserves` — the law is kept by every call.
* `aim_motion_is_conserved` — it holds in every run.
-/

namespace Wroid

open Lib TouchEngine

/-! ### Strokes -/

/-- The coordinates of a point, as integers. -/
def Point.vec (p : Point) : ℤ × ℤ := (p.x, p.y)

/-- A stay of a contact on the surface: where it was pressed, and where it was last. -/
structure Stroke where
  contactId : ContactId
  start : Point
  last : Point
  deriving DecidableEq

namespace Stroke

/-- The newest stroke of the contact `a` goes on to `p`. -/
def extend (a : ContactId) (p : Point) : List Stroke → List Stroke
  | [] => []
  | s :: rest => if s.contactId = a then { s with last := p } :: rest else s :: extend a p rest

/-- What an event does to the strokes, the newest first. -/
def record (strokes : List Stroke) (event : TouchEvent) : List Stroke :=
  match event.phase with
  | .down => ⟨event.contactId, event.position, event.position⟩ :: strokes
  | .move | .up | .cancel => extend event.contactId event.position strokes

/-- How far the strokes went, all in all. -/
def travel (strokes : List Stroke) : ℤ × ℤ :=
  (strokes.map fun s => s.last.vec - s.start.vec).sum

@[simp] theorem travel_nil : travel [] = 0 := rfl

@[simp] theorem travel_cons (s : Stroke) (strokes : List Stroke) :
    travel (s :: strokes) = s.last.vec - s.start.vec + travel strokes := by
  rw [travel, List.map_cons, List.sum_cons, travel]

theorem extend_head (a : ContactId) (start p q : Point) (rest : List Stroke) :
    extend a q (⟨a, start, p⟩ :: rest) = ⟨a, start, q⟩ :: rest := by
  rw [extend, if_pos rfl]

end Stroke

/-- The strokes that the frames draw. -/
def strokesOf (frames : List TouchFrame) : List Stroke :=
  frames.foldl (fun strokes frame => frame.events.foldl Stroke.record strokes) []

@[simp] theorem strokesOf_nil : strokesOf [] = [] := rfl

section Drawn

variable {I : Type} {base : List TouchFrame} {strokes rest : List Stroke}

/-- The frames after those in `base` draw the strokes. -/
def Drawn (base : List TouchFrame) (strokes : List Stroke) (e : TouchEngine (Recorder I)) : Prop :=
  ∃ frames, e.injector.submitted = base ++ frames ∧ strokesOf frames = strokes

variable [TouchInjector I] {eng : TouchEngine (Recorder I)}

theorem submit_drawn (frame : TouchFrame) (h : Drawn base strokes eng) :
    wp (submit frame) (fun _ e => Drawn base (frame.events.foldl Stroke.record strokes) e ∧
      e.state = eng.state.applyFrame frame) (fun _ _ => True) eng := by
  obtain ⟨frames, hsubmitted, rfl⟩ := h
  refine wp_mono (submit_recorded frame) ?_ fun _ _ _ => trivial
  rintro - e ⟨he, hstate⟩
  refine ⟨⟨frames ++ [frame], ?_, ?_⟩, hstate⟩
  · rw [he, hsubmitted, List.append_assoc]
  · rw [strokesOf, List.foldl_append]
    rfl

/-- A frame of one event, and where it leaves its contact. -/
theorem single_drawn (event : TouchEvent) (h : Drawn base strokes eng) :
    wp (submit (.single event)) (fun _ e => Drawn base (Stroke.record strokes event) e ∧
      e.state.position event.contactId = event.after) (fun _ _ => True) eng := by
  refine wp_mono (submit_drawn _ h) ?_ fun _ _ _ => trivial
  rintro - e ⟨hdrawn, hstate⟩
  refine ⟨hdrawn, ?_⟩
  rw [hstate, TouchState.applyFrame_single, TouchState.position_applyEvent, if_pos rfl]

theorem beginContact_drawn (a : ContactId) (p : Point) (h : Drawn base strokes eng) :
    wp (beginContact a p) (fun _ e => Drawn base (⟨a, p, p⟩ :: strokes) e ∧
      e.state.position a = some p) (fun _ _ => True) eng :=
  single_drawn ⟨a, .down, p⟩ h

theorem moveContact_drawn {a : ContactId} {start p : Point} (q : Point)
    (h : Drawn base (⟨a, start, p⟩ :: rest) eng) :
    wp (moveContact a q) (fun _ e => Drawn base (⟨a, start, q⟩ :: rest) e ∧
      e.state.position a = some q) (fun _ _ => True) eng := by
  have hrecord := Stroke.extend_head a start p q rest
  rw [← hrecord]
  exact single_drawn ⟨a, .move, q⟩ h

theorem endContact_drawn {a : ContactId} {start p : Point} (hp : eng.state.position a = some p)
    (h : Drawn base (⟨a, start, p⟩ :: rest) eng) :
    wp (endContact a) (fun _ e => Drawn base (⟨a, start, p⟩ :: rest) e) (fun _ _ => True) eng := by
  simp only [endContact, wp_bind, wp_get, hp]
  refine wp_mono (single_drawn _ h) ?_ fun _ _ _ => trivial
  rintro - e ⟨hdrawn, -⟩
  rwa [Stroke.record, Stroke.extend_head] at hdrawn

theorem handOver_drawn {a b : ContactId} (hne : a ≠ b) {start q : Point} (p : Point)
    (h : Drawn base (⟨b, start, q⟩ :: rest) eng) :
    wp (submit (Contract.handOverFrame a p b q))
      (fun _ e => Drawn base (⟨a, p, p⟩ :: ⟨b, start, q⟩ :: rest) e ∧ e.state.position a = some p)
      (fun _ _ => True) eng := by
  have hrecord : (Contract.handOverFrame a p b q).events.foldl Stroke.record
      (⟨b, start, q⟩ :: rest) = ⟨a, p, p⟩ :: ⟨b, start, q⟩ :: rest := by
    change Stroke.extend b q (⟨a, p, p⟩ :: ⟨b, start, q⟩ :: rest) = _
    rw [Stroke.extend, if_neg hne, Stroke.extend_head]
  refine wp_mono (submit_drawn _ h) ?_ fun _ _ _ => trivial
  rintro - e ⟨hdrawn, hstate⟩
  refine ⟨hrecord ▸ hdrawn, ?_⟩
  rw [hstate, Contract.handOverFrame, TouchState.applyFrame, List.foldl_cons, List.foldl_cons,
    List.foldl_nil, TouchState.position_applyEvent, if_neg hne.symm,
    TouchState.position_applyEvent, if_pos rfl]
  rfl

end Drawn

/-! ### Scale, and exact steps -/

/-- The motion that a call reports. -/
def AimCall.motion : AimCall → ℤ × ℤ
  | .moveBy delta _ => (delta.dx, delta.dy)
  | _ => 0

/-- The calls that follow the mouse. -/
def AimCall.Follows : AimCall → Prop
  | .moveBy _ _ | .tick _ => True
  | _ => False

/-- Nothing is lost when the value is kept in an `i64`. -/
def unsaturated (z : ℤ) : Bool := saturateI64 z = z

/-- A motion by `d` from `p` stays inside the region. -/
def MouseAim.free (aim : MouseAim) (p : Point) (d : ℤ × ℤ) : Bool :=
  decide (aim.region.left ≤ p.x + d.1 ∧ p.x + d.1 ≤ aim.region.right ∧ p.x + d.1 ≤ u32Max) &&
  decide (aim.region.top ≤ p.y + d.2 ∧ p.y + d.2 ≤ aim.region.bottom ∧ p.y + d.2 ≤ u32Max)

namespace MouseAimController

/-- The numerator and the denominator in force. -/
def scale (c : MouseAimController) : ℤ × ℤ :=
  match c.adsActive, c.settings.adsMultiplier with
  | true, some multiplier =>
    (c.aim.sensitivity.numerator * multiplier.numerator,
      c.aim.sensitivity.denominator * multiplier.denominator)
  | _, _ => (c.aim.sensitivity.numerator, c.aim.sensitivity.denominator)

/-- What the code scales with: the same, as far as an `i64` holds it. -/
def inForce (c : MouseAimController) : ℤ × ℤ :=
  match c.adsActive, c.settings.adsMultiplier with
  | true, some multiplier =>
    (saturateI64 (c.aim.sensitivity.numerator * multiplier.numerator),
      saturateI64 (c.aim.sensitivity.denominator * multiplier.denominator))
  | _, _ => (c.aim.sensitivity.numerator, c.aim.sensitivity.denominator)

theorem scaledDelta_inForce (c : MouseAimController) (delta : MouseAimDelta) :
    c.scaledDelta delta =
      (((scaleStep c.carryX delta.dx c.inForce.1 c.inForce.2).1,
        (scaleStep c.carryY delta.dy c.inForce.1 c.inForce.2).1),
        { c with
          carryX := (scaleStep c.carryX delta.dx c.inForce.1 c.inForce.2).2
          carryY := (scaleStep c.carryY delta.dy c.inForce.1 c.inForce.2).2 }) := by
  unfold scaledDelta inForce
  cases hads : c.adsActive <;> cases hmul : c.settings.adsMultiplier <;> rfl

/-- The motion that waits for the end of the gap. -/
def gap (c : MouseAimController) : ℤ × ℤ :=
  match c.pendingRecenter with
  | some pending => (pending.dx, pending.dy)
  | none => 0

/-- Scaling the motion saturates nowhere. -/
def scalesExactly (c : MouseAimController) (delta : MouseAimDelta) : Bool :=
  unsaturated c.scale.1 && unsaturated c.scale.2 &&
  unsaturated (delta.dx * c.scale.1) && unsaturated (delta.dx * c.scale.1 + c.carryX) &&
  unsaturated (delta.dy * c.scale.1) && unsaturated (delta.dy * c.scale.1 + c.carryY)

variable {I : Type} [TouchInjector I]

/-- No value of the step saturates, and no touch it submits is clamped. -/
def exact (t : TouchEngine I × MouseAimController) : AimCall → Bool
  | .moveBy delta now =>
    let (dx, dy) := (t.2.scaledDelta delta).1
    t.2.scalesExactly delta &&
      match t.2.pendingRecenter with
      | some pending =>
        unsaturated (pending.dx + dx) && unsaturated (pending.dy + dy) &&
          (decide (now < pending.readyAt) ||
            t.2.aim.free t.2.aim.origin (pending.dx + dx, pending.dy + dy))
      | none =>
        match t.2.activeContactId.bind t.1.state.position with
        | none => true
        | some current =>
          let target := t.2.aim.region.clamp (offsetPoint current dx dy)
          if target ≠ current ∧ t.2.pastRecenterThreshold target = true then
            decide (t.2.settings.recenterGap ≠ 0) || t.2.aim.free t.2.aim.origin (dx, dy)
          else t.2.aim.free current (dx, dy)
  | .tick now =>
    match t.2.pendingRecenter with
    | some pending =>
      decide (now < pending.readyAt) || t.2.aim.free t.2.aim.origin (pending.dx, pending.dy)
    | none => true
  | _ => true

/-- **The law of conservation**, in the unit of the scaled motion. -/
structure Balanced (scale total : ℤ × ℤ) (strokes : List Stroke) (c : MouseAimController) :
    Prop where
  x : scale.2 * ((Stroke.travel strokes).1 + c.gap.1) + c.carryX = scale.1 * total.1
  y : scale.2 * ((Stroke.travel strokes).2 + c.gap.2) + c.carryY = scale.1 * total.2

section Law

variable {scale total : ℤ × ℤ} {strokes strokes' : List Stroke} {c d : MouseAimController}

/-- A step that moves nothing. -/
theorem Balanced.still (h : Balanced scale total strokes c)
    (htravel : Stroke.travel strokes' + d.gap = Stroke.travel strokes + c.gap)
    (hx : d.carryX = c.carryX) (hy : d.carryY = c.carryY) : Balanced scale total strokes' d := by
  have h₁ := congrArg Prod.fst htravel
  have h₂ := congrArg Prod.snd htravel
  simp only [Prod.fst_add, Prod.snd_add] at h₁ h₂
  refine ⟨?_, ?_⟩
  · rw [h₁, hx, h.x]
  · rw [h₂, hy, h.y]

/-- **One motion**: the whole pixels go to the touches or to the gap, the rest is carried. -/
theorem Balanced.move {whole delta : ℤ × ℤ} (h : Balanced scale total strokes c)
    (htravel : Stroke.travel strokes' + d.gap = Stroke.travel strokes + c.gap + whole)
    (hx : scale.2 * whole.1 + d.carryX = scale.1 * delta.1 + c.carryX)
    (hy : scale.2 * whole.2 + d.carryY = scale.1 * delta.2 + c.carryY) :
    Balanced scale (total + delta) strokes' d := by
  have h₁ := congrArg Prod.fst htravel
  have h₂ := congrArg Prod.snd htravel
  simp only [Prod.fst_add, Prod.snd_add] at h₁ h₂
  refine ⟨?_, ?_⟩
  · rw [h₁, Prod.fst_add]
    linear_combination h.x + hx
  · rw [h₂, Prod.snd_add]
    linear_combination h.y + hy

theorem scale_denominator_ne (c : MouseAimController) : c.scale.2 ≠ 0 := by
  have hden : (c.aim.sensitivity.denominator : ℤ) ≠ 0 := by
    exact_mod_cast c.aim.sensitivity.denominator_ne
  unfold MouseAimController.scale
  split
  · next multiplier _ _ =>
    have hmul : (multiplier.denominator : ℤ) ≠ 0 := by exact_mod_cast multiplier.denominator_ne
    exact mul_ne_zero hden hmul
  · exact hden

theorem scaleStep_exact {carry delta numerator denominator : ℤ} (hden : denominator ≠ 0)
    (hmul : unsaturated (delta * numerator) = true)
    (hsum : unsaturated (delta * numerator + carry) = true) :
    denominator * (scaleStep carry delta numerator denominator).1 +
      (scaleStep carry delta numerator denominator).2 = numerator * delta + carry := by
  have hmul' : saturateI64 (delta * numerator) = delta * numerator := by
    simpa [unsaturated] using hmul
  have hsum' : saturateI64 (delta * numerator + carry) = delta * numerator + carry := by
    simpa [unsaturated] using hsum
  rw [scaleStep, if_neg hden, hmul', hsum', Int.mul_tdiv_add_tmod, mul_comm]

/-- **Scaling keeps what it does not turn into whole pixels.** -/
theorem scaledDelta_exact {delta : MouseAimDelta} (h : c.scalesExactly delta = true) :
    c.scale.2 * (c.scaledDelta delta).1.1 + (c.scaledDelta delta).2.carryX =
        c.scale.1 * delta.dx + c.carryX ∧
      c.scale.2 * (c.scaledDelta delta).1.2 + (c.scaledDelta delta).2.carryY =
        c.scale.1 * delta.dy + c.carryY := by
  simp only [scalesExactly, Bool.and_eq_true] at h
  obtain ⟨⟨⟨⟨⟨hnum, hden⟩, hxmul⟩, hxsum⟩, hymul⟩, hysum⟩ := h
  have hnum' : saturateI64 c.scale.1 = c.scale.1 := by simpa [unsaturated] using hnum
  have hden' : saturateI64 c.scale.2 = c.scale.2 := by simpa [unsaturated] using hden
  have hforce : c.inForce = c.scale := by
    unfold MouseAimController.scale at hnum' hden'
    unfold inForce MouseAimController.scale
    cases hads : c.adsActive <;> cases hmul : c.settings.adsMultiplier <;>
      simp only [hads, hmul] at hnum' hden' ⊢
    rw [hnum', hden']
  rw [scaledDelta_inForce, hforce]
  exact ⟨scaleStep_exact c.scale_denominator_ne hxmul hxsum,
    scaleStep_exact c.scale_denominator_ne hymul hysum⟩

/-- A coordinate that stays in the region is not clamped on the way. -/
theorem aimOffsetAxis_free {value low high : ℕ} {delta : ℤ} (hlow : (low : ℤ) ≤ value + delta)
    (hhigh : value + delta ≤ (high : ℤ)) (hmax : value + delta ≤ (u32Max : ℤ)) :
    ((max low (min (aimOffsetAxis value delta) high) : ℕ) : ℤ) = value + delta := by
  have hwrap : wrapI64 (value + delta) = value + delta := by
    unfold u32Max at hmax
    rw [wrapI64, Int.bmod_eq_of_le] <;> omega
  unfold aimOffsetAxis
  rw [hwrap]
  dsimp only
  split_ifs <;> omega

/-- **A free motion is not clamped.** -/
theorem clamp_free {p : Point} {v : ℤ × ℤ} (h : c.aim.free p v = true) :
    (c.aim.region.clamp (offsetPoint p v.1 v.2)).vec = p.vec + v := by
  simp only [MouseAim.free, Bool.and_eq_true, decide_eq_true_eq] at h
  obtain ⟨⟨hl, hr, hx⟩, ht, hb, hy⟩ := h
  exact Prod.ext (aimOffsetAxis_free hl hr hx) (aimOffsetAxis_free ht hb hy)

end Law

/-! ### Every call keeps the law -/

section Conserves

variable {I : Type} [TouchInjector I] {base : List TouchFrame} {scale total : ℤ × ℤ}
  {eng : TouchEngine (Recorder I)} {c : MouseAimController}

/-- The strokes since `base` obey the law, and the newest one is the contact in use. -/
structure Conserved (base : List TouchFrame) (scale total : ℤ × ℤ)
    (t : TouchEngine (Recorder I) × MouseAimController) : Prop where
  scaled : t.2.scale = scale
  active : t.2.isActive = true
  balanced : ∃ strokes, Drawn base strokes t.1 ∧ Balanced scale total strokes t.2 ∧
    ∀ a, t.2.activeContactId = some a → ∃ p start rest,
      t.1.state.position a = some p ∧ strokes = ⟨a, start, p⟩ :: rest

/-- The contact `a` has taken over at the origin; the motion left over moves it on. -/
theorem applyResidual_draws {a : ContactId} {strokes : List Stroke} {dx dy : ℤ}
    (hfree : c.aim.free c.aim.origin (dx, dy) = true)
    (hdrawn : Drawn base (⟨a, c.aim.origin, c.aim.origin⟩ :: strokes) eng)
    (hp : eng.state.position a = some c.aim.origin) :
    wp (applyResidual a dx dy) (fun _ t => t.2 = c ∧ ∃ p,
      Drawn base (⟨a, c.aim.origin, p⟩ :: strokes) t.1 ∧ t.1.state.position a = some p ∧
        p.vec - c.aim.origin.vec = (dx, dy)) (fun _ _ => True) (eng, c) := by
  have hvec := clamp_free hfree
  simp only [applyResidual, wp_bind, wp_get, wp_ite, wp_onEngine, wp_pure]
  split
  · refine wp_mono (moveContact_drawn _ hdrawn) ?_ fun _ _ _ => trivial
    rintro - e ⟨hdrawn', hp'⟩
    refine ⟨trivial, _, hdrawn', hp', ?_⟩
    rw [hvec, add_sub_cancel_left]
  · next horigin =>
    rw [not_not.mp horigin] at hvec
    refine ⟨trivial, _, hdrawn, hp, ?_⟩
    rw [sub_self]
    exact (left_eq_add.mp hvec).symm

/-- **The end of the gap, or a reaffirmation**, moves nothing. -/
theorem tick_conserves (now : ℕ) (h : Conserved base scale total (eng, c))
    (hexact : exact (eng, c) (.tick now) = true) :
    wp (tick now) (fun _ t => Conserved base scale total t) (fun _ _ => True) (eng, c) := by
  obtain ⟨strokes, hdrawn, hbalanced, htracked⟩ := h.balanced
  simp only [tick, wp_bind, wp_get]
  split
  · next r hr =>
    simp only [wp_ite, wp_pure, wp_bind, wp_onEngine, wp_update]
    split
    · exact h
    · next hover =>
      simp only [exact, hr, hover, decide_false, Bool.false_or] at hexact
      refine wp_mono (beginContact_drawn _ _ hdrawn) ?_ fun _ _ _ => trivial
      rintro - e ⟨hdrawn', hp'⟩
      refine wp_mono (applyResidual_draws hexact hdrawn' hp') ?_ fun _ _ _ => trivial
      rintro - ⟨e', c'⟩ ⟨rfl, p, hdrawn'', hp'', hv⟩
      refine ⟨h.scaled, rfl, _, hdrawn'', hbalanced.still ?_ rfl rfl, ?_⟩
      · rw [Stroke.travel_cons, hv, gap, gap, hr]
        exact (add_zero _).trans (add_comm _ _)
      · rintro a ⟨⟩
        exact ⟨p, _, _, hp'', rfl⟩
  · split
    · next interval a _ ha =>
      simp only [wp_ite, wp_pure]
      split
      · exact h
      · split
        · exact h
        · next position hposition =>
          simp only [wp_bind, wp_onEngine, wp_update, wp_pure]
          obtain ⟨p, start, rest, hp, rfl⟩ := htracked a ha
          obtain rfl := Option.some.inj (hposition.symm.trans hp)
          refine wp_mono (moveContact_drawn _ hdrawn) ?_ fun _ _ _ => trivial
          rintro - e ⟨hdrawn', hp'⟩
          refine ⟨h.scaled, h.active, _, hdrawn', hbalanced.still rfl rfl rfl, ?_⟩
          intro b hb
          obtain rfl := Option.some.inj (ha.symm.trans hb)
          exact ⟨_, _, _, hp', rfl⟩
    · exact h

/-- A motion that makes the contacts take turns goes to the new contact, or waits. -/
theorem recenter_conserves {a : ContactId} {p start : Point} {rest : List Stroke} {v : ℤ × ℤ}
    (now : ℕ) {d : MouseAimController} (hturn : d.Turn) (ha : d.activeContactId = some a)
    (hpending : d.pendingRecenter = none) (hscale : d.scale = scale)
    (hp : eng.state.position a = some p) (hdrawn : Drawn base (⟨a, start, p⟩ :: rest) eng)
    (hbalanced : ∀ strokes e, Stroke.travel strokes + e.gap =
        Stroke.travel (⟨a, start, p⟩ :: rest) + v → e.carryX = d.carryX → e.carryY = d.carryY →
      Balanced scale total strokes e)
    (hfree : d.settings.recenterGap = 0 → d.aim.free d.aim.origin v = true) :
    wp (recenter a p v.1 v.2 now) (fun _ t => Conserved base scale total t) (fun _ _ => True)
      (eng, d) := by
  have hne : d.nextContactId ≠ a := by
    rw [hturn.active a ha]
    exact (other_ne hturn.next).symm
  simp only [recenter, wp_bind, wp_get, wp_ite, wp_onEngine, wp_update, wp_pure]
  split
  · next hgap =>
    refine wp_mono (handOver_drawn hne _ hdrawn) ?_ fun _ _ _ => trivial
    rintro - e ⟨hdrawn', hp'⟩
    refine wp_mono (applyResidual_draws (hfree hgap) hdrawn' hp') ?_ fun _ _ _ => trivial
    rintro - ⟨e', c'⟩ ⟨rfl, q, hdrawn'', hq, hv⟩
    refine ⟨hscale, rfl, _, hdrawn'', hbalanced _ _ ?_ rfl rfl, ?_⟩
    · rw [Stroke.travel_cons, hv, gap, hpending]
      exact (add_zero _).trans (add_comm _ _)
    · rintro b ⟨⟩
      exact ⟨q, _, _, hq, rfl⟩
  · refine wp_mono (endContact_drawn hp hdrawn) (fun _ e hdrawn' => ?_) fun _ _ _ => trivial
    refine ⟨hscale, by simp [isActive], _, hdrawn', hbalanced _ _ rfl rfl rfl, ?_⟩
    intro b hb
    cases hb

theorem moveBy_conserves (delta : MouseAimDelta) (now : ℕ) (hturn : c.Turn)
    (h : Conserved base scale total (eng, c))
    (hexact : exact (eng, c) (.moveBy delta now) = true) :
    wp (moveBy delta now) (fun _ t => Conserved base scale (total + (delta.dx, delta.dy)) t)
      (fun _ _ => True) (eng, c) := by
  obtain ⟨strokes, hdrawn, hbalanced, htracked⟩ := h.balanced
  have hactive : c.isActive = true := h.active
  simp only [exact, Bool.and_eq_true] at hexact
  obtain ⟨hscales, hexact⟩ := hexact
  obtain ⟨hx, hy⟩ := scaledDelta_exact hscales
  rw [show c.scale = scale from h.scaled] at hx hy
  simp only [moveBy, wp_bind, wp_get, wp_ite, wp_pure]
  split
  · next hzero =>
    have hdelta : ((delta.dx, delta.dy) : ℤ × ℤ) = 0 := by
      simpa [hactive, MouseAimDelta.isZero] using hzero
    rw [hdelta, add_zero]
    exact h
  simp only [wp_update]
  obtain ⟨v, hv⟩ : ∃ v, (c.scaledDelta delta).1 = v := ⟨_, rfl⟩
  obtain ⟨d, hscaled⟩ : ∃ d, (c.scaledDelta delta).2 = d := ⟨_, rfl⟩
  simp only [hv, hscaled] at hexact hx hy ⊢
  obtain ⟨x, y, hxy⟩ : ∃ x y, d = { c with carryX := x, carryY := y } :=
    ⟨_, _, hscaled ▸ c.scaledDelta_fields delta⟩
  -- whatever the branch, the whole pixels of `v` are added on one side, and `delta` on the other
  have hlaw : ∀ strokes' e, Stroke.travel strokes' + e.gap = Stroke.travel strokes + c.gap + v →
      e.carryX = d.carryX → e.carryY = d.carryY →
        Balanced scale (total + (delta.dx, delta.dy)) strokes' e := by
    intro strokes' e htravel hex hey
    refine hbalanced.move htravel ?_ ?_
    · rw [hex]
      exact hx
    · rw [hey]
      exact hy
  subst hxy
  split
  · next r hr =>
    simp only [hr, Bool.and_eq_true] at hexact
    obtain ⟨⟨hrx, hry⟩, hfree⟩ := hexact
    have hrx' : saturateI64 (r.dx + v.1) = r.dx + v.1 := by simpa [unsaturated] using hrx
    have hry' : saturateI64 (r.dy + v.2) = r.dy + v.2 := by simpa [unsaturated] using hry
    simp only [wp_bind, wp_update, hrx', hry']
    refine tick_conserves now ⟨h.scaled, by simp [isActive], strokes, hdrawn, hlaw _ _ ?_ rfl rfl,
      htracked⟩ hfree
    rw [gap, gap, hr, add_assoc]
    rfl
  · next hpending =>
    have hgap : c.gap = 0 := by rw [gap, hpending]
    rw [hgap, add_zero] at hlaw
    split
    · next hnone =>
      simp [isActive, hnone, hpending] at hactive
    · next a ha =>
      obtain ⟨p, start, rest, hp, rfl⟩ := htracked a ha
      have hp' : eng.state.position a = some p := hp
      simp only [hpending, ha, hp', Option.bind_some] at hexact
      simp only [hp', wp_ite, wp_pure, wp_bind, wp_onEngine, wp_update]
      split
      · next htarget =>
        simp only [htarget, ne_eq, not_true_eq_false, false_and, if_false] at hexact
        have hvec : p.vec = p.vec + v := by
          conv_lhs => rw [← htarget]
          exact clamp_free hexact
        refine ⟨h.scaled, hactive, _, hdrawn, hlaw _ _ ?_ rfl rfl, htracked⟩
        rw [left_eq_add.mp hvec, add_zero]
        exact (congrArg _ hgap).trans (add_zero _)
      · next htarget =>
        split
        · next hpast =>
          simp only [htarget, ne_eq, not_false_eq_true, true_and] at hexact
          rw [if_pos hpast] at hexact
          refine recenter_conserves now (hturn.of_fields rfl rfl (fun _ hb => hb) rfl
            fun r hr => ⟨r, hr, rfl, rfl⟩) ha hpending h.scaled hp' hdrawn hlaw ?_
          intro hzero
          have hzero' : c.settings.recenterGap = 0 := hzero
          simpa [hzero'] using hexact
        · next hpast =>
          rw [if_neg fun hboth => hpast hboth.2] at hexact
          have hvec : (c.aim.region.clamp (offsetPoint p v.1 v.2)).vec = p.vec + v :=
            clamp_free hexact
          refine wp_mono (moveContact_drawn _ hdrawn) ?_ fun _ _ _ => trivial
          rintro - e ⟨hdrawn', hq⟩
          refine ⟨h.scaled, hactive, _, hdrawn', hlaw _ _ ?_ rfl rfl, ?_⟩
          · rw [Stroke.travel_cons, Stroke.travel_cons, hvec]
            rw [show ({ c with carryX := x, carryY := y, lastReaffirmAt := some now } :
              MouseAimController).gap = 0 from hgap]
            abel
          · intro b hb
            obtain rfl := Option.some.inj (ha.symm.trans hb)
            exact ⟨_, _, _, hq, rfl⟩

end Conserves

end MouseAimController

/-! ### Runs -/

namespace MouseAimController

section Runs

variable {I : Type} [TouchInjector I] {base : List TouchFrame} {scale total : ℤ × ℤ}
  {eng : TouchEngine (Recorder I)} {c : MouseAimController}

/-- No remainder is left from before. -/
def Rested (c : MouseAimController) : Prop := c.isActive = false → c.carryX = 0 ∧ c.carryY = 0

theorem Rested.of_isActive (h : c.isActive = true) : c.Rested := by
  intro hidle
  rw [h] at hidle
  cases hidle

theorem deactivate_rested :
    wp deactivate (fun _ t => t.2.Rested) (fun _ _ => True) (eng, c) := by
  simp only [deactivate, wp_bind, wp_get, wp_update]
  split
  · simp only [wp_ite, wp_bind, wp_onEngine, wp_pure]
    split
    · exact wp_mono wp_true (fun _ _ _ _ => ⟨rfl, rfl⟩) fun _ _ _ => trivial
    · exact fun _ => ⟨rfl, rfl⟩
  · exact fun _ => ⟨rfl, rfl⟩

theorem cancel_rested : wp cancel (fun _ t => t.2.Rested) (fun _ _ => True) (eng, c) := by
  simp only [cancel, wp_bind, wp_get, wp_update]
  split
  · split
    · simp only [wp_bind, wp_onEngine, wp_pure]
      exact wp_mono wp_true (fun _ _ _ _ => ⟨rfl, rfl⟩) fun _ _ _ => trivial
    · exact fun _ => ⟨rfl, rfl⟩
  · exact fun _ => ⟨rfl, rfl⟩

omit [TouchInjector I] in
theorem setAdsActive_rested (active : Bool) (h : c.Rested) : (c.setAdsActive active).Rested := by
  intro hidle
  obtain ⟨-, -, hactive, -, hpending⟩ := c.setAdsActive_fields active
  rw [isActive, hactive, hpending] at hidle
  unfold setAdsActive resetAccumulator
  split
  · exact ⟨rfl, rfl⟩
  · exact h hidle

/-- A controller between two calls. -/
structure Settled (t : TouchEngine (Recorder I) × MouseAimController) : Prop where
  agrees : t.2.Agrees t.1.state.position
  turn : t.2.Turn
  rested : t.2.Rested

/-- Following the mouse only leaves a remainder while the controller is active. -/
theorem perform_rested (call : AimCall) (h : c.Agrees eng.state.position) (hrested : c.Rested) :
    wp (perform call) (fun _ t => t.2.Rested) (fun _ _ => True) (eng, c) := by
  have hallows : (Contract.unknown (Recorder I)).AllowsOn c.contacts c.aim.region.pixels :=
    ⟨fun _ _ _ _ _ => trivial, fun _ _ _ _ _ _ _ _ _ => trivial⟩
  have hactivate : ∀ now, wp (activate now) (fun _ t => t.2.Rested) (fun _ _ => True) (eng, c) :=
    fun now => wp_mono (activate_spec (K := Contract.unknown (Recorder I)) now trivial h hallows)
      (fun _ _ ht => .of_isActive ht.active) fun _ _ _ => trivial
  cases call with
  | activate now => exact (wp_map _ _).mpr (hactivate now)
  | toggle now =>
    refine (wp_map _ _).mpr ?_
    simp only [toggle, wp_bind, wp_get, wp_ite]
    split
    · exact deactivate_rested
    · exact hactivate now
  | moveBy delta now =>
    refine (wp_map _ _).mpr ?_
    cases hactive : c.isActive with
    | true =>
      refine wp_mono (moveBy_spec (K := Contract.unknown (Recorder I)) delta now trivial h hallows)
        (fun _ _ ht => .of_isActive (ht.active.trans hactive)) fun _ _ _ => trivial
    | false =>
      simp only [moveBy, wp_bind, wp_get, wp_ite, wp_pure, hactive, Bool.not_false, Bool.or_true,
        if_true]
      exact hrested
  | tick now =>
    refine (wp_map _ _).mpr ?_
    cases hactive : c.isActive with
    | true =>
      refine wp_mono (tick_spec (K := Contract.unknown (Recorder I)) now trivial h hallows)
        (fun _ _ ht => .of_isActive (ht.active.trans hactive)) fun _ _ _ => trivial
    | false =>
      obtain ⟨hnone, hpending⟩ := isActive_eq_false.mp hactive
      simp only [tick, wp_bind, wp_get, hpending, hnone]
      split
      · next hactive => cases hactive
      · exact hrested
  | setAdsActive active => exact setAdsActive_rested active hrested
  | deactivate => exact (wp_map _ _).mpr deactivate_rested
  | cancel => exact (wp_map _ _).mpr cancel_rested

theorem perform_settled (call : AimCall) (t : TouchEngine (Recorder I) × MouseAimController)
    (h : Settled t) : wp (perform call) (fun _ t' => Settled t') (fun _ _ => True) t := by
  obtain ⟨eng, c⟩ := t
  have hallows : (Contract.unknown (Recorder I)).AllowsOn c.contacts c.aim.region.pixels :=
    ⟨fun _ _ _ _ _ => trivial, fun _ _ _ _ _ _ _ _ _ => trivial⟩
  have hspec := perform_spec (K := Contract.unknown (Recorder I)) call trivial h.agrees hallows
  refine wp_mono (wp_and (wp_and hspec (perform_took call h.turn))
    (perform_rested call h.agrees h.rested)) ?_ fun _ _ _ => trivial
  rintro - t' ⟨⟨⟨_, hstep⟩, htook⟩, hrested⟩
  exact ⟨hstep.agrees, htook.turn, hrested⟩

/-- The first stroke of an activation. -/
theorem activate_conserves (now : ℕ) (h : Settled (eng, c)) (hidle : c.isActive = false) :
    wp (perform (.activate now)) (fun _ t => Conserved eng.injector.submitted c.scale 0 t)
      (fun _ _ => True) (eng, c) := by
  obtain ⟨hx, hy⟩ : c.carryX = 0 ∧ c.carryY = 0 := h.rested hidle
  have hpending := (isActive_eq_false.mp hidle).2
  refine (wp_map _ _).mpr ?_
  simp only [activate, wp_bind, wp_get, wp_ite, hidle, Bool.false_eq_true, if_false, wp_onEngine,
    wp_update, wp_pure]
  refine wp_mono (beginContact_drawn _ _ ⟨[], (List.append_nil _).symm, rfl⟩) ?_ fun _ _ _ => trivial
  rintro - e ⟨hdrawn, hp⟩
  refine ⟨rfl, rfl, _, hdrawn, ?_, ?_⟩
  · refine ⟨?_, ?_⟩
    · simp [gap, hpending, hx]
    · simp [gap, hpending, hy]
  · rintro a ⟨⟩
    exact ⟨_, _, _, hp, rfl⟩

/-- **One call that follows the mouse.** -/
theorem perform_conserves (call : AimCall) (hfollows : call.Follows)
    (t : TouchEngine (Recorder I) × MouseAimController) (hturn : t.2.Turn)
    (h : Conserved base scale total t) (hexact : exact t call = true) :
    wp (perform call) (fun _ t' => Conserved base scale (total + call.motion) t' ∧ t'.2.Turn)
      (fun _ _ => True) t := by
  obtain ⟨eng, c⟩ := t
  have hconserves : wp (perform call) (fun _ t' => Conserved base scale (total + call.motion) t')
      (fun _ _ => True) (eng, c) := by
    cases call with
    | moveBy delta now => exact (wp_map _ _).mpr (moveBy_conserves delta now hturn h hexact)
    | tick now =>
      have hstill : total + (AimCall.tick now).motion = total := add_zero total
      rw [hstill]
      exact (wp_map _ _).mpr (tick_conserves now h hexact)
    | activate | toggle | setAdsActive | deactivate | cancel => exact hfollows.elim
  exact wp_mono (wp_and hconserves (perform_took call hturn))
    (fun _ _ ht => ⟨ht.1, ht.2.turn⟩) fun _ _ _ => trivial

theorem run_conserves {calls : List AimCall} (hfollows : ∀ call ∈ calls, call.Follows)
    {t : TouchEngine (Recorder I) × MouseAimController} (hturn : t.2.Turn)
    (h : Conserved base scale total t)
    (hexact : AllSteps perform (fun t call => exact t call = true) calls t) :
    wp (runAll perform calls)
      (fun _ t' => Conserved base scale (total + (calls.map AimCall.motion).sum) t')
      (fun _ _ => True) t := by
  induction calls generalizing total t with
  | nil =>
    rw [List.map_nil, List.sum_nil, add_zero]
    exact h
  | cons call calls ih =>
    obtain ⟨hcall, hrest⟩ := hexact
    have hstep := perform_conserves call (hfollows call List.mem_cons_self) t hturn h hcall
    rw [runAll, wp_bind, List.map_cons, List.sum_cons, ← add_assoc]
    unfold wp at hstep ⊢
    cases hm : perform call t with
    | error e t' => trivial
    | ok u t' =>
      simp only [hm] at hstep hrest
      exact ih (fun call' hcall' => hfollows call' (List.mem_cons_of_mem call hcall'))
        hstep.2 hstep.1 hrest

/-- **Aim motion is conserved.**  After any activation, and any calls that follow the mouse
without saturating or being clamped, the strokes drawn since, the motion that waits and the
remainder add up to what the mouse reported. -/
theorem aim_motion_is_conserved {aim : MouseAim} {settings : MouseAimSettings}
    (hnew : MouseAimController.new aim settings = .ok c)
    (hup : ∀ d ∈ c.contacts, eng.state.position d = none) {before calls : List AimCall} {now : ℕ}
    {t₀ t₁ t₂ : TouchEngine (Recorder I) × MouseAimController}
    (hbefore : runAll perform before (eng, c) = .ok () t₀) (hidle : t₀.2.isActive = false)
    (hactivate : perform (.activate now) t₀ = .ok () t₁)
    (hfollows : ∀ call ∈ calls, call.Follows)
    (hexact : AllSteps perform (fun t call => exact t call = true) calls t₁)
    (hrun : runAll perform calls t₁ = .ok () t₂) :
    ∃ frames, t₂.1.injector.submitted = t₀.1.injector.submitted ++ frames ∧
      t₀.2.scale.2 * ((Stroke.travel (strokesOf frames)).1 + t₂.2.gap.1) + t₂.2.carryX =
        t₀.2.scale.1 * (calls.map AimCall.motion).sum.1 ∧
      t₀.2.scale.2 * ((Stroke.travel (strokesOf frames)).2 + t₂.2.gap.2) + t₂.2.carryY =
        t₀.2.scale.1 * (calls.map AimCall.motion).sum.2 := by
  have hsettled : Settled (eng, c) := by
    obtain ⟨hagrees, -, -, -⟩ := new_agrees hnew hup
    unfold MouseAimController.new at hnew
    split_ifs at hnew
    obtain rfl := Except.ok.inj hnew
    exact ⟨hagrees, ⟨.inr rfl, by simp, by simp⟩, fun _ => ⟨rfl, rfl⟩⟩
  have h₀ : Settled t₀ := wp_ok (wp_runAll perform_settled before hsettled) hbefore
  have h₁ := wp_ok (activate_conserves now h₀ hidle) hactivate
  have hturn := (wp_ok (perform_settled (.activate now) t₀ h₀) hactivate).turn
  have h₂ := wp_ok (run_conserves hfollows hturn h₁ hexact) hrun
  rw [zero_add] at h₂
  obtain ⟨strokes, ⟨frames, hframes, rfl⟩, hbalanced, -⟩ := h₂.balanced
  exact ⟨frames, hframes, hbalanced.x, hbalanced.y⟩

theorem aim_motion_is_conserved_square :
    ∃ t₁ t₂, perform (.activate 0) (TouchEngine.new (Recorder.new ()), squareController) = .ok () t₁ ∧
      runAll perform [.moveBy ⟨3, 0⟩ 1, .moveBy ⟨4, -2⟩ 2, .tick 3] t₁ = .ok () t₂ ∧
      (Stroke.travel (strokesOf t₂.1.injector.submitted)).1 + t₂.2.gap.1 + t₂.2.carryX = 7 := by
  obtain ⟨_, t₁, hactivate, h₁⟩ := exists_of_returnsWith
    (show returnsWith (fun t => decide (AllSteps perform (fun t call => exact t call = true)
        [.moveBy ⟨3, 0⟩ 1, .moveBy ⟨4, -2⟩ 2, .tick 3] t) &&
      returnsWith (fun _ => true) (runAll perform [.moveBy ⟨3, 0⟩ 1, .moveBy ⟨4, -2⟩ 2, .tick 3]) t)
      (perform (.activate 0)) (TouchEngine.new (Recorder.new ()), squareController) = true
      by decide +kernel)
  obtain ⟨hexact, hreturns⟩ := Bool.and_eq_true_iff.mp h₁
  obtain ⟨_, t₂, hrun, -⟩ := exists_of_returnsWith hreturns
  obtain ⟨frames, hframes, hx, -⟩ := aim_motion_is_conserved
    (show MouseAimController.new squareAim squareSettings = .ok squareController from rfl)
    (fun _ _ => TouchState.position_empty _)
    (show runAll perform [] (TouchEngine.new (Recorder.new ()), squareController) =
      .ok () (TouchEngine.new (Recorder.new ()), squareController) from rfl)
    rfl hactivate (by simp [AimCall.Follows]) (of_decide_eq_true hexact) hrun
  have hsubmitted : t₂.1.injector.submitted = frames := hframes
  refine ⟨t₁, t₂, hactivate, hrun, ?_⟩
  rw [hsubmitted]
  have hscale : squareController.scale = (1, 1) := rfl
  have htotal : ([AimCall.moveBy ⟨3, 0⟩ 1, .moveBy ⟨4, -2⟩ 2, .tick 3].map AimCall.motion).sum.1 =
    7 := rfl
  rw [htotal, hscale] at hx
  linarith

end Runs

end MouseAimController

end Wroid
