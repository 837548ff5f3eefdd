import Wroid.Lib.Preserves
import Wroid.Runtime.AimTravel

/-!
# Aiming at the edge of the region

Without a gap a motion moves the tracked contact, or hands over to the other one at the
origin.  Which of the two is decided by the place the motion would lead to, after clamping.
But before that, a motion that leads nowhere is ignored, and at the edge of the region a
motion outwards leads nowhere: the contact is stuck there until the mouse turns round.

A contact gets to the edge when a fast motion is applied to the one that took over, or when
the origin, or the threshold, is that close to the edge.

## Main definitions

* `Displaces`, `MouseAimRegion.CanFollow` — the motion leads somewhere, on an axis and in the
  region.
* `MouseAimController.Gapless` — what holds of a controller without a gap.

## Main results

* `clamp_ne_iff` — clamping leaves the contact where it is exactly if it cannot follow.
* `moveBy_follows` — what `moveBy` does in each case.
* `aim_follows_iff` — **a motion is followed if and only if the contact can follow**.
-/

namespace Wroid

open Lib TouchEngine

/-! ### Axes -/

/-- A displacement `delta` leads away from `value` inside `low..high`.  Beyond the range of an
`i64` the code wraps, and goes to the low end. -/
def Displaces (low high value : ℕ) (delta : ℤ) : Prop :=
  (low < value ∧ (delta < 0 ∨ i64Max < value + delta)) ∨
    (value < high ∧ 0 < delta ∧ value + delta ≤ i64Max)

instance (low high value : ℕ) (delta : ℤ) : Decidable (Displaces low high value delta) :=
  inferInstanceAs (Decidable (_ ∨ _))

/-- The contact at `p` can follow the motion `v`: on one axis at least it is not at the edge. -/
def MouseAimRegion.CanFollow (region : MouseAimRegion) (p : Point) (v : ℤ × ℤ) : Prop :=
  Displaces region.left region.right p.x v.1 ∨ Displaces region.top region.bottom p.y v.2

instance (region : MouseAimRegion) (p : Point) (v : ℤ × ℤ) : Decidable (region.CanFollow p v) :=
  inferInstanceAs (Decidable (_ ∨ _))

/-- One axis: where a value ends up that is offset and clamped. -/
theorem clampAxis_ne_iff {low high value : ℕ} {delta : ℤ} (hlow : low ≤ value)
    (hhigh : value ≤ high) (hmax : high ≤ u32Max) (hdelta : saturateI64 delta = delta) :
    max low (min (aimOffsetAxis value delta) high) ≠ value ↔ Displaces low high value delta := by
  unfold saturateI64 i64Min i64Max at hdelta
  unfold u32Max at hmax
  unfold Displaces i64Max
  by_cases hwraps : 9223372036854775807 < (value : ℤ) + delta
  · -- the sum wraps to a negative one
    have hwrap : wrapI64 (value + delta) = value + delta - 18446744073709551616 := by
      rw [wrapI64, ← Int.sub_bmod_right, Int.bmod_eq_of_le] <;> omega
    have haxis : aimOffsetAxis value delta = 0 := by
      unfold aimOffsetAxis
      rw [hwrap, if_pos (by omega)]
    rw [haxis]
    omega
  · have hwrap : wrapI64 (value + delta) = value + delta := by
      rw [wrapI64, Int.bmod_eq_of_le] <;> omega
    unfold aimOffsetAxis
    rw [hwrap]
    unfold u32Max
    dsimp only
    split_ifs <;> omega

/-- **Clamping leaves a point of the region where it is exactly if it cannot follow.** -/
theorem clamp_ne_iff {region : MouseAimRegion} {p : Point} {v : ℤ × ℤ} (hp : region.Contains p)
    (hright : region.right ≤ u32Max) (hbottom : region.bottom ≤ u32Max)
    (hx : saturateI64 v.1 = v.1) (hy : saturateI64 v.2 = v.2) :
    region.clamp (offsetPoint p v.1 v.2) ≠ p ↔ region.CanFollow p v := by
  obtain ⟨hleft, hright', htop, hbottom'⟩ := hp
  have hx' := clampAxis_ne_iff hleft hright' hright hx
  have hy' := clampAxis_ne_iff htop hbottom' hbottom hy
  obtain ⟨x, y⟩ := p
  rw [MouseAimRegion.CanFollow, ← hx', ← hy', MouseAimRegion.clamp, offsetPoint, Ne,
    Point.mk.injEq, not_and_or]

/-- The region of an aim is on the surface it was made for. -/
theorem MouseAim.new_region {contactId : ContactId} {origin : Point} {region : MouseAimRegion}
    {resolution : Resolution} {sensitivity : MouseAimSensitivity} {aim : MouseAim}
    (h : MouseAim.new contactId origin region resolution sensitivity = .ok aim) :
    aim.region.right < resolution.width ∧ aim.region.bottom < resolution.height := by
  simp only [MouseAim.new, MouseAimRegion.validate, bind, Except.bind] at h
  split at h
  · cases h
  · next _ region' hregion =>
    split_ifs at hregion with _ hinvalid
    obtain rfl := Except.ok.inj hregion
    split at h
    · obtain rfl := Except.ok.inj h
      dsimp only
      omega
    · cases h

namespace MouseAimController

variable {I : Type} [TouchInjector I]

/-! ### What moveBy does -/

section Follows

variable {eng : TouchEngine I} {c : MouseAimController} {a : ContactId}

/-- The motion left over is applied to the contact at the origin. -/
theorem applyResidual_follows (hnever : NeverFails I) (dx dy : ℤ)
    (hdown : eng.state.position a = some c.aim.origin) :
    wp (applyResidual a dx dy) (fun _ t => t.2 = c ∧
      t.1.state.position a = some (c.aim.region.clamp (offsetPoint c.aim.origin dx dy)))
      (fun _ _ => False) (eng, c) := by
  simp only [applyResidual, wp_bind, wp_get, wp_ite, wp_onEngine, wp_pure]
  split
  · refine wp_mono (moveContact_spec (K := .ofNeverFails hnever) trivial (by simp [hdown])
      fun _ => trivial) ?_ fun _ _ hf => hf.elim fun _ hf => hf.2
    rintro - e ⟨-, hpos⟩
    exact ⟨trivial, by rw [hpos, if_pos rfl]⟩
  · next horigin =>
    rw [not_not.mp horigin]
    exact ⟨trivial, hdown⟩

/-- **What a motion does without a gap**: nothing if it leads nowhere, and otherwise it moves
the tracked contact, or the other one from the origin. -/
theorem moveBy_follows (hnever : NeverFails I) {p : Point} {delta : MouseAimDelta} (now : ℕ)
    {v : ℤ × ℤ} (hv : (c.scaledDelta delta).1 = v) (hdelta : delta.isZero = false)
    (hactive : c.activeContactId = some a) (hpending : c.pendingRecenter = none)
    (hgap : c.settings.recenterGap = 0) (hmem : a ∈ c.contacts)
    (hnext : c.nextContactId = c.other a) (hdown : eng.state.position a = some p)
    (hup : eng.state.position (c.other a) = none) :
    wp (moveBy delta now) (fun r t =>
      if c.aim.region.clamp (offsetPoint p v.1 v.2) = p then r = .ignored
      else (r = .moved ∧ t.2.activeContactId = some a ∧
          t.1.state.position a = some (c.aim.region.clamp (offsetPoint p v.1 v.2))) ∨
        (r = .recentered ∧ t.2.activeContactId = some (c.other a) ∧
          t.1.state.position (c.other a) =
            some (c.aim.region.clamp (offsetPoint c.aim.origin v.1 v.2))))
      (fun _ _ => False) (eng, c) := by
  obtain ⟨d, hscaled⟩ : ∃ d, (c.scaledDelta delta).2 = d := ⟨_, rfl⟩
  obtain ⟨x, y, rfl⟩ : ∃ x y, d = { c with carryX := x, carryY := y } :=
    ⟨_, _, hscaled ▸ c.scaledDelta_fields delta⟩
  have hisActive : c.isActive = true := by simp [isActive, hactive]
  simp only [moveBy, wp_bind, wp_get, wp_ite, wp_pure, hdelta, hisActive, Bool.not_true,
    Bool.or_false, Bool.false_eq_true, if_false, wp_update, hv, hscaled, hpending, hactive, hdown]
  split
  · exact trivial
  split
  · -- past the threshold the other contact takes over
    simp only [recenter, wp_bind, wp_get, hgap, if_true, hnext, wp_onEngine, wp_update, wp_pure]
    refine wp_mono (submit_handOver_spec (K := .ofNeverFails hnever) trivial (other_ne hmem) hup
      (by simp [hdown]) trivial) ?_ fun _ _ hf => hf.elim fun _ hf => hf.2
    rintro - e ⟨-, hpos⟩
    refine wp_mono (applyResidual_follows hnever _ _ ?_) ?_ fun _ _ hf => hf
    · rw [hpos, if_neg (other_ne hmem).symm, if_pos rfl]
    · rintro - ⟨e', c'⟩ ⟨rfl, hpos'⟩
      exact .inr ⟨trivial, rfl, hpos'⟩
  · simp only [wp_onEngine]
    refine wp_mono (moveContact_spec (K := .ofNeverFails hnever) trivial (by simp [hdown])
      fun _ => trivial) ?_ fun _ _ hf => hf.elim fun _ hf => hf.2
    rintro - e ⟨-, hpos⟩
    exact .inl ⟨trivial, trivial, by rw [hpos, if_pos rfl]⟩

end Follows

/-! ### Controllers without a gap -/

/-- A remainder of a division by `denominator`. -/
def IsRemainder (denominator carry : ℤ) : Prop :=
  carry.natAbs < denominator.natAbs ∧ saturateI64 carry = carry

/-- A controller without a gap never waits, and its remainders are those of its scale. -/
structure Gapless (c : MouseAimController) : Prop where
  gap : c.settings.recenterGap = 0
  pending : c.pendingRecenter = none
  carryX : IsRemainder c.inForce.2 c.carryX
  carryY : IsRemainder c.inForce.2 c.carryY

theorem inForce_pos (c : MouseAimController) : 0 < c.inForce.2 := by
  have hden := Nat.pos_of_ne_zero c.aim.sensitivity.denominator_ne
  unfold inForce
  split
  · next multiplier _ _ =>
    have hmul := Nat.pos_of_ne_zero multiplier.denominator_ne
    have hprod : (0 : ℤ) < c.aim.sensitivity.denominator * multiplier.denominator := by positivity
    unfold saturateI64 i64Min i64Max
    dsimp only
    omega
  · change (0 : ℤ) < c.aim.sensitivity.denominator
    exact_mod_cast hden

theorem isRemainder_zero (c : MouseAimController) : IsRemainder c.inForce.2 0 := by
  have := c.inForce_pos
  refine ⟨by omega, by decide⟩

theorem saturateI64_idem (z : ℤ) : saturateI64 (saturateI64 z) = saturateI64 z := by
  unfold saturateI64 i64Min i64Max
  omega

/-- A step leaves a remainder, and whole pixels that an `i64` holds. -/
theorem scaleStep_bounds {carry delta numerator denominator : ℤ} (hden : 0 < denominator) :
    saturateI64 (scaleStep carry delta numerator denominator).1 =
        (scaleStep carry delta numerator denominator).1 ∧
      IsRemainder denominator (scaleStep carry delta numerator denominator).2 := by
  rw [scaleStep, if_neg hden.ne']
  generalize hscaled : saturateI64 (saturateI64 (delta * numerator) + carry) = scaled
  have hbounds : i64Min ≤ scaled ∧ scaled ≤ i64Max := by
    rw [← hscaled]
    unfold saturateI64 i64Min i64Max
    omega
  have hquot : (scaled.tdiv denominator).natAbs ≤ scaled.natAbs := Int.natAbs_tdiv_le_natAbs _ _
  have hmod : (scaled.tmod denominator).natAbs ≤ scaled.natAbs := by
    rw [Int.natAbs_tmod]
    exact Nat.mod_le _ _
  have hsign : 0 ≤ scaled → 0 ≤ scaled.tdiv denominator ∧ 0 ≤ scaled.tmod denominator :=
    fun h => ⟨Int.tdiv_nonneg h hden.le, Int.tmod_nonneg _ h⟩
  have hsign' : scaled ≤ 0 → scaled.tdiv denominator ≤ 0 ∧ scaled.tmod denominator ≤ 0 := by
    intro h
    have hneg : 0 ≤ -scaled := by omega
    have h₁ := Int.tdiv_nonneg hneg hden.le
    have h₂ := Int.tmod_nonneg denominator hneg
    rw [Int.neg_tdiv] at h₁
    rw [Int.neg_tmod] at h₂
    omega
  unfold i64Min i64Max at hbounds
  dsimp only
  refine ⟨?_, ?_, ?_⟩
  · unfold saturateI64 i64Min i64Max
    omega
  · rw [Int.natAbs_tmod]
    exact Nat.mod_lt _ (by omega)
  · unfold saturateI64 i64Min i64Max
    omega

/-- Without a motion, a remainder makes no whole pixel. -/
theorem scaleStep_zero {carry numerator denominator : ℤ} (h : IsRemainder denominator carry) :
    (scaleStep carry 0 numerator denominator).1 = 0 := by
  obtain ⟨hlt, hsat⟩ := h
  have hden : denominator ≠ 0 := by omega
  rw [scaleStep, if_neg hden, zero_mul, show saturateI64 0 = 0 from by decide, zero_add, hsat]
  exact Int.natAbs_eq_zero.mp (by rw [Int.natAbs_tdiv]; exact Nat.div_eq_of_lt hlt)

section Keeps

variable {α : Type} {P : MouseAimController → Prop}

omit [TouchInjector I] in
theorem onEngine_keeps (m : EngineM I α) :
    Preserves (fun t : TouchEngine I × MouseAimController => P t.2) (onEngine m) :=
  fun _ ht => (wp_onEngine m).mpr (wp_mono wp_true (fun _ _ _ => ht) fun _ _ _ => ht)

omit [TouchInjector I] in
theorem update_keeps {f : MouseAimController → MouseAimController} (hf : ∀ c, P c → P (f c)) :
    Preserves (fun t : TouchEngine I × MouseAimController => P t.2) (update f) :=
  preserves_modify fun _ ht => hf _ ht

/-- Only the pending recentering, the remainders and the scale matter. -/
theorem Gapless.of_fields {c d : MouseAimController} (h : c.Gapless)
    (hsettings : d.settings = c.settings) (haim : d.aim = c.aim) (hads : d.adsActive = c.adsActive)
    (hpending : d.pendingRecenter = none) (hx : d.carryX = c.carryX) (hy : d.carryY = c.carryY) :
    d.Gapless := by
  have hforce : d.inForce = c.inForce := by rw [inForce, inForce, hads, hsettings, haim]
  refine ⟨hsettings ▸ h.gap, hpending, ?_, ?_⟩
  · rw [hforce, hx]
    exact h.carryX
  · rw [hforce, hy]
    exact h.carryY

/-- A controller whose remainders were dropped. -/
theorem Gapless.reset {c d : MouseAimController} (h : c.Gapless)
    (hsettings : d.settings = c.settings) (hpending : d.pendingRecenter = none)
    (hx : d.carryX = 0) (hy : d.carryY = 0) : d.Gapless := by
  refine ⟨hsettings ▸ h.gap, hpending, ?_, ?_⟩
  · rw [hx]
    exact d.isRemainder_zero
  · rw [hy]
    exact d.isRemainder_zero

theorem Gapless.scaled {c : MouseAimController} (h : c.Gapless) (delta : MouseAimDelta) :
    (c.scaledDelta delta).2.Gapless := by
  rw [scaledDelta_inForce]
  exact ⟨h.gap, h.pending, (scaleStep_bounds c.inForce_pos).2, (scaleStep_bounds c.inForce_pos).2⟩

/-- The controllers without a gap. -/
abbrev KeepsGapless (m : ControllerM I α) : Prop :=
  Preserves (fun t : TouchEngine I × MouseAimController => t.2.Gapless) m

theorem applyResidual_gapless (b : ContactId) (dx dy : ℤ) :
    KeepsGapless (applyResidual b dx dy : ControllerM I Unit) :=
  .read fun _ _ => .ite (fun _ => onEngine_keeps _) fun _ => preserves_pure _

theorem activate_gapless (now : ℕ) : KeepsGapless (activate now : ControllerM I MouseAimUpdate) :=
  .read fun ⟨_, _⟩ _ => .ite (fun _ => preserves_pure _) fun _ =>
    .bind (onEngine_keeps _) fun _ => .bind (update_keeps fun _ h =>
      h.of_fields rfl rfl rfl h.pending rfl rfl) fun _ => preserves_pure _

theorem tick_gapless (now : ℕ) : KeepsGapless (tick now : ControllerM I MouseAimUpdate) := by
  refine .read fun ⟨eng, c⟩ hc => ?_
  have hpending : c.pendingRecenter = none := hc.pending
  simp only [hpending]
  split
  · refine .ite (fun _ => preserves_pure _) fun _ => ?_
    split
    · exact preserves_pure _
    · exact .bind (onEngine_keeps _) fun _ => .bind (update_keeps fun _ h =>
        h.of_fields rfl rfl rfl h.pending rfl rfl) fun _ => preserves_pure _
  · exact preserves_pure _

theorem recenter_gapless (b : ContactId) (p : Point) (dx dy : ℤ) (now : ℕ) :
    KeepsGapless (recenter b p dx dy now : ControllerM I MouseAimUpdate) := by
  refine .read fun ⟨eng, c⟩ hc => ?_
  have hgap : c.settings.recenterGap = 0 := hc.gap
  simp only [hgap, if_true]
  exact .bind (onEngine_keeps _) fun _ => .bind (update_keeps fun _ h =>
    h.of_fields rfl rfl rfl h.pending rfl rfl) fun _ => .bind (applyResidual_gapless _ _ _)
      fun _ => .bind (update_keeps fun _ h => h.of_fields rfl rfl rfl h.pending rfl rfl)
        fun _ => preserves_pure _

theorem moveBy_gapless (delta : MouseAimDelta) (now : ℕ) :
    KeepsGapless (moveBy delta now : ControllerM I MouseAimUpdate) := by
  refine .read fun ⟨eng, c⟩ hc => .ite (fun _ => preserves_pure _) fun _ => ?_
  refine .bind (update_keeps fun _ _ => hc.scaled delta) fun _ => ?_
  have hpending : c.pendingRecenter = none := hc.pending
  simp only [hpending]
  split
  · exact preserves_pure _
  · split
    · exact preserves_pure _
    · refine .ite (fun _ => preserves_pure _) fun _ => .ite (fun _ => recenter_gapless _ _ _ _ _)
        fun _ => ?_
      exact .bind (onEngine_keeps _) fun _ => .bind (update_keeps fun _ h =>
        h.of_fields rfl rfl rfl h.pending rfl rfl) fun _ => preserves_pure _

theorem deactivate_gapless : KeepsGapless (deactivate : ControllerM I MouseAimUpdate) := by
  refine .read fun ⟨eng, c⟩ _ => .bind (update_keeps fun _ h =>
    h.of_fields rfl rfl rfl h.pending rfl rfl) fun _ => ?_
  have hrest (lifted : Bool) : KeepsGapless (do
      update fun d => { d with
        pendingRecenter := none, adsActive := false, lastReaffirmAt := none, carryX := 0, carryY := 0 }
      return if lifted || c.pendingRecenter.isSome then MouseAimUpdate.deactivated else .ignored :
        ControllerM I MouseAimUpdate) :=
    .bind (update_keeps fun _ h => h.reset rfl rfl rfl rfl) fun _ => preserves_pure _
  dsimp only
  split
  · exact .ite (fun _ => .bind (onEngine_keeps _) fun _ => hrest true) fun _ => hrest false
  · exact hrest false

theorem cancel_gapless : KeepsGapless (cancel : ControllerM I Bool) := by
  refine .read fun ⟨eng, c⟩ _ => .bind (update_keeps fun _ h =>
    h.of_fields rfl rfl rfl rfl rfl rfl) fun _ => ?_
  have hrest (lifted : Bool) : KeepsGapless (do
      update fun d => { d with adsActive := false, lastReaffirmAt := none, carryX := 0, carryY := 0 }
      return lifted || c.pendingRecenter.isSome : ControllerM I Bool) :=
    .bind (update_keeps fun _ h => h.reset rfl h.pending rfl rfl) fun _ => preserves_pure _
  dsimp only
  split
  · split
    · exact .bind (onEngine_keeps _) fun _ => hrest true
    · exact hrest false
  · exact hrest false

theorem Gapless.setAdsActive {c : MouseAimController} (h : c.Gapless) (active : Bool) :
    (c.setAdsActive active).Gapless := by
  obtain ⟨haim, hsettings, -, -, hpending⟩ := c.setAdsActive_fields active
  by_cases hads : c.adsActive = active
  · refine h.of_fields hsettings haim ?_ (hpending.trans h.pending) ?_ ?_ <;>
      simp [MouseAimController.setAdsActive, hads]
  · refine h.reset hsettings (hpending.trans h.pending) ?_ ?_ <;>
      simp [MouseAimController.setAdsActive, hads, resetAccumulator]

theorem perform_gapless (call : AimCall) : KeepsGapless (perform call : ControllerM I Unit) := by
  have hdiscard : ∀ {β : Type} {m : ControllerM I β}, KeepsGapless m →
      KeepsGapless (discard m) := fun hm t ht => (wp_map _ _).mpr (hm t ht)
  cases call with
  | activate now => exact hdiscard (activate_gapless now)
  | toggle now =>
    exact hdiscard (.read fun _ _ => .ite (fun _ => deactivate_gapless) fun _ => activate_gapless now)
  | moveBy delta now => exact hdiscard (moveBy_gapless delta now)
  | tick now => exact hdiscard (tick_gapless now)
  | setAdsActive active => exact update_keeps (P := Gapless) fun c hc => hc.setAdsActive active
  | deactivate => exact hdiscard deactivate_gapless
  | cancel => exact hdiscard cancel_gapless

end Keeps

/-! ### Runs -/

section Runs

variable {aim : MouseAim}

/-- A controller of the aim without a gap, between two calls. -/
structure Ready (aim : MouseAim) (t : TouchEngine I × MouseAimController) : Prop where
  agrees : t.2.Agrees t.1.state.position
  gapless : t.2.Gapless
  aim : t.2.aim = aim

theorem perform_ready (hnever : NeverFails I) (call : AimCall)
    (t : TouchEngine I × MouseAimController) (h : Ready aim t) :
    wp (perform call) (fun _ t' => Ready aim t') (fun _ _ => False) t := by
  obtain ⟨eng, c⟩ := t
  have hspec := perform_spec (K := .ofNeverFails hnever) call trivial h.agrees
    ⟨fun _ _ _ _ _ => trivial, fun _ _ _ _ _ _ _ _ _ => trivial⟩
  refine wp_mono (wp_and hspec (perform_gapless call (eng, c) h.gapless)) ?_
    fun _ _ hf => hf.1.elim fun _ hf => hf.2
  rintro - t' ⟨⟨_, hstep⟩, hgapless⟩
  exact ⟨hstep.agrees, hgapless, hstep.aim.trans h.aim⟩

/-- **A motion is followed if and only if the contact can follow it**: the contact moves by it,
or the other contact takes over and moves by it from the origin. -/
theorem aim_follows_iff (hnever : NeverFails I) {contactId : ContactId} {origin : Point}
    {region : MouseAimRegion} {resolution : Resolution} {sensitivity : MouseAimSensitivity}
    (hwidth : resolution.width ≤ u32Max) (hheight : resolution.height ≤ u32Max)
    (haim : MouseAim.new contactId origin region resolution sensitivity = .ok aim)
    {settings : MouseAimSettings} {c : MouseAimController}
    (hnew : MouseAimController.new aim settings = .ok c) (hgap : settings.recenterGap = 0)
    {eng : TouchEngine I} (hup : ∀ d ∈ c.contacts, eng.state.position d = none)
    {calls : List AimCall} {t : TouchEngine I × MouseAimController}
    (hrun : runAll perform calls (eng, c) = .ok () t) (hactive : t.2.isActive = true)
    {delta : MouseAimDelta} {v : ℤ × ℤ} (hv : (t.2.scaledDelta delta).1 = v) (hne : v ≠ (0, 0))
    (now : ℕ) :
    ∃ r t', moveBy delta now t = .ok r t' ∧ ∃ a p, t.2.activeContactId = some a ∧
      t.1.state.position a = some p ∧
      ((∃ b q, ((r = .moved ∧ q = p) ∨ (r = .recentered ∧ q = aim.origin)) ∧
          t'.2.activeContactId = some b ∧
          t'.1.state.position b = some (aim.region.clamp (offsetPoint q v.1 v.2))) ↔
        aim.region.CanFollow p v) := by
  have hready : Ready aim (eng, c) := by
    obtain ⟨hagrees, hcaim, hsettings, -⟩ := new_agrees hnew hup
    unfold MouseAimController.new at hnew
    split_ifs at hnew
    obtain rfl := Except.ok.inj hnew
    exact ⟨hagrees, ⟨hgap, rfl, isRemainder_zero _, isRemainder_zero _⟩, rfl⟩
  obtain ⟨eng', d⟩ := t
  obtain ⟨hagrees, hgapless, hdaim⟩ := wp_ok (wp_runAll (perform_ready hnever) calls hready) hrun
  have hdaim' : d.aim = aim := hdaim
  obtain ⟨hright, hbottom⟩ := MouseAim.new_region haim
  have hscaled := scaledDelta_inForce d delta
  have hx : saturateI64 v.1 = v.1 := by
    rw [← hv, hscaled]
    exact (scaleStep_bounds d.inForce_pos).1
  have hy : saturateI64 v.2 = v.2 := by
    rw [← hv, hscaled]
    exact (scaleStep_bounds d.inForce_pos).1
  have hdelta : delta.isZero = false := by
    -- without a motion there would be no whole pixel
    refine Bool.eq_false_iff.mpr fun hzero => hne ?_
    obtain ⟨hdx, hdy⟩ : delta.dx = 0 ∧ delta.dy = 0 := by
      simpa [MouseAimDelta.isZero] using hzero
    rw [← hv, hscaled, hdx, hdy]
    exact Prod.ext (scaleStep_zero hgapless.carryX) (scaleStep_zero hgapless.carryY)
  cases hagrees with
  | idle active pending up =>
    have hidle := isActive_eq_false.mpr ⟨active, pending⟩
    rw [hactive] at hidle
    cases hidle
  | waiting r active pending mem previous up =>
    rw [hgapless.pending] at pending
    cases pending
  | tracking a p active pending mem next down inside up =>
    obtain ⟨r, t', hm, hr⟩ := wp_returns (moveBy_follows hnever now hv hdelta active
      pending hgapless.gap mem next down up)
    refine ⟨r, t', hm, a, p, active, down, ?_⟩
    have hcan := clamp_ne_iff (hdaim' ▸ inside) (by omega) (by omega) hx hy
    rw [hdaim'] at hr
    rw [← hcan]
    constructor
    · rintro ⟨b, q, hresult, -⟩ hsame
      rw [if_pos hsame] at hr
      subst hr
      rcases hresult with ⟨hr, -⟩ | ⟨hr, -⟩ <;> cases hr
    · intro hmoves
      rw [if_neg hmoves] at hr
      rcases hr with ⟨rfl, hactive', hpos⟩ | ⟨rfl, hactive', hpos⟩
      · exact ⟨a, p, .inl ⟨rfl, rfl⟩, hactive', hpos⟩
      · exact ⟨_, aim.origin, .inr ⟨rfl, rfl⟩, hactive', hpos⟩

theorem aim_follows_iff_square :
    ∃ t, runAll perform [.activate 0] (TouchEngine.new (), squareController) = .ok () t ∧
      ∃ r t', moveBy ⟨1, 0⟩ 1 t = .ok r t' ∧ ∃ a p, t.2.activeContactId = some a ∧
        t.1.state.position a = some p ∧
        ((∃ b q, ((r = .moved ∧ q = p) ∨ (r = .recentered ∧ q = squareAim.origin)) ∧
            t'.2.activeContactId = some b ∧
            t'.1.state.position b = some (squareAim.region.clamp (offsetPoint q 1 0))) ↔
          squareAim.region.CanFollow p (1, 0)) := by
  obtain ⟨_, t, hrun, ht⟩ := exists_of_returnsWith
    (show returnsWith (fun t => t.2.isActive && decide ((t.2.scaledDelta ⟨1, 0⟩).1 = (1, 0)))
      (runAll perform [.activate 0]) (TouchEngine.new (), squareController) = true
      by decide +kernel)
  obtain ⟨hactive, hv⟩ := Bool.and_eq_true_iff.mp ht
  exact ⟨t, hrun, aim_follows_iff neverFails_unit (by decide) (by decide)
    (show MouseAim.new 1 ⟨5, 5⟩ ⟨0, 0, 10, 10⟩ ⟨11, 11⟩ ⟨1, 1, by decide, by decide⟩ =
      .ok squareAim from rfl)
    (show MouseAimController.new squareAim squareSettings = .ok squareController from rfl) rfl
    (fun _ _ => TouchState.position_empty _) hrun hactive (of_decide_eq_true hv) (by decide) 1⟩

/-- A fast motion takes the contact that took over to the edge.  There the next motion in the
same direction is ignored. -/
theorem aim_gets_stuck_at_the_edge :
    MouseAim.new 1 ⟨5, 5⟩ ⟨0, 0, 10, 10⟩ ⟨11, 11⟩ ⟨1, 1, by decide, by decide⟩ = .ok squareAim ∧
      MouseAimController.new squareAim squareSettings = .ok squareController ∧
      ∃ u t, runAll perform [.activate 0, .moveBy ⟨20, 0⟩ 1]
        (TouchEngine.new (), squareController) = .ok u t ∧
        decide (t.2.isActive = true ∧ (t.2.scaledDelta ⟨1, 0⟩).1 = (1, 0) ∧
          (match moveBy ⟨1, 0⟩ 2 t with
            | .ok r _ => some r
            | .error _ _ => none) = some .ignored) = true :=
  ⟨rfl, rfl, exists_of_returnsWith (by decide +kernel)⟩

end Runs

end MouseAimController

end Wroid
