import Wroid.Lib.Guarded
import Wroid.Runtime.AimFailures
import Wroid.Runtime.AimTravel

/-!
# An aim controller that watches for overflow

Most of the controller's arithmetic saturates.  The rest is plain, and a build with overflow
checks halts where a result does not fit: this file repeats the operations of the controller
with those checks.

## Main definitions

* `checkedI64`, `checkedUnsigned`, `checkedDiv`, `checkedRem` — plain operations.
* `MouseAimController.checkedTick`, `checkedMoveBy`, `checkedPerform` — the operations of the
  controller, halting at an overflow.

## Main results

* `checkedPerform_guards` — **where a call does not overflow, the checks change nothing**.
-/

namespace Wroid

open Lib TouchEngine

/-! ### Plain operations -/

/-- A plain result of type `i64`. -/
def checkedI64 (z : ℤ) : Option ℤ := if i64Min ≤ z ∧ z ≤ i64Max then some z else none

/-- A plain result of an unsigned type. -/
def checkedUnsigned (limit : ℕ) (z : ℤ) : Option ℕ :=
  if 0 ≤ z ∧ z ≤ limit then some z.toNat else none

/-- An `i64` division, which rounds towards zero. -/
def checkedDiv (a b : ℤ) : Option ℤ := if b = 0 then none else checkedI64 (a.tdiv b)

/-- The remainder overflows where the division does. -/
def checkedRem (a b : ℤ) : Option ℤ := do
  let _ ← checkedDiv a b
  return a.tmod b

theorem checkedI64_eq_some {z r : ℤ} : checkedI64 z = some r ↔ (i64Min ≤ z ∧ z ≤ i64Max) ∧ z = r := by
  unfold checkedI64
  split
  · next h => simp only [h, Option.some.injEq, and_self, true_and]
  · next h => simp only [reduceCtorEq, h, false_and]

theorem checkedUnsigned_eq_some {limit r : ℕ} {z : ℤ} :
    checkedUnsigned limit z = some r ↔ (0 ≤ z ∧ z ≤ limit) ∧ z.toNat = r := by
  unfold checkedUnsigned
  split
  · next h => simp only [h, Option.some.injEq, and_self, true_and]
  · next h => simp only [reduceCtorEq, h, false_and]

theorem checkedDiv_eq_some {a b r : ℤ} (h : checkedDiv a b = some r) : a.tdiv b = r := by
  unfold checkedDiv at h
  split at h
  · cases h
  · exact (checkedI64_eq_some.mp h).2

/-- A division by a positive number does not overflow. -/
theorem checkedDiv_of_pos {a b : ℤ} (ha : i64Min ≤ a ∧ a ≤ i64Max) (hb : 0 < b) :
    checkedDiv a b = some (a.tdiv b) := by
  have hquot : (a.tdiv b).natAbs ≤ a.natAbs := Int.natAbs_tdiv_le_natAbs _ _
  have hpos : 0 ≤ a → 0 ≤ a.tdiv b := fun h => Int.tdiv_nonneg h hb.le
  have hneg : a ≤ 0 → a.tdiv b ≤ 0 := by
    intro h
    have hopposite := Int.tdiv_nonneg (show 0 ≤ -a by omega) hb.le
    rw [Int.neg_tdiv] at hopposite
    omega
  rw [checkedDiv, if_neg hb.ne', checkedI64_eq_some]
  unfold i64Min i64Max at *
  refine ⟨?_, rfl⟩
  omega

/-! ### The checked controller -/

def checkedScaleStep (carry delta numerator denominator : ℤ) : Option (ℤ × ℤ) :=
  if denominator = 0 then some (0, carry)
  else do
    let scaled := saturateI64 (saturateI64 (delta * numerator) + carry)
    let whole ← checkedDiv scaled denominator
    let carry ← checkedRem scaled denominator
    return (whole, carry)

def checkedOffsetAxis (value : ℕ) (delta : ℤ) : Option ℕ := do
  let value ← checkedI64 (value + delta)
  return if value ≤ 0 then 0 else if (u32Max : ℤ) ≤ value then u32Max else value.toNat

def checkedOffsetPoint (point : Point) (dx dy : ℤ) : Option Point := do
  let x ← checkedOffsetAxis point.x dx
  let y ← checkedOffsetAxis point.y dy
  return ⟨x, y⟩

namespace MouseAimController

def checkedScaledDelta (c : MouseAimController) (delta : MouseAimDelta) :
    Option ((ℤ × ℤ) × MouseAimController) := do
  let (numerator, denominator) := c.inForce
  let x ← checkedScaleStep c.carryX delta.dx numerator denominator
  let y ← checkedScaleStep c.carryY delta.dy numerator denominator
  return ((x.1, y.1), { c with carryX := x.2, carryY := y.2 })

def checkedPastRecenterThreshold (c : MouseAimController) (target : Point) : Option Bool := do
  let width ← checkedUnsigned u32Max ((c.aim.region.right : ℤ) - c.aim.region.left)
  let height ← checkedUnsigned u32Max ((c.aim.region.bottom : ℤ) - c.aim.region.top)
  let radius :=
    min (min (width / 2) (height / 2) * c.settings.recenterThresholdMilli) u64Max / 1000
  let dx ← checkedI64 ((target.x : ℤ) - c.aim.origin.x)
  let dy ← checkedI64 ((target.y : ℤ) - c.aim.origin.y)
  -- the cast to `u64` keeps a value that is not negative
  let distanceSquared ←
    checkedUnsigned u64Max (saturateI64 (saturateI64 (dx * dx) + saturateI64 (dy * dy)))
  return decide (min (radius * radius) u64Max < distanceSquared)

variable {I : Type} [TouchInjector I]

/-- A computation on an engine and one controller that halts at an overflow. -/
abbrev CheckedM (I : Type) := EStateM (Halt TouchEngineError) (TouchEngine I × MouseAimController)

def checkedApplyResidual (contactId : ContactId) (dx dy : ℤ) : CheckedM I Unit := do
  let (_, c) ← get
  let moved ← guarded (checkedOffsetPoint c.aim.origin dx dy)
  let target := c.aim.region.clamp moved
  if target ≠ c.aim.origin then unguarded (onEngine (moveContact contactId target))

def checkedTick (now : ℕ) : CheckedM I MouseAimUpdate := do
  let (engine, c) ← get
  match c.pendingRecenter with
  | some pending =>
    if now < pending.readyAt then return .ignored
    unguarded (onEngine (beginContact pending.contactId c.aim.origin))
    unguarded <| update fun c => { c with
      activeContactId := some pending.contactId
      nextContactId := pending.previousContactId
      pendingRecenter := none
      lastReaffirmAt := some now }
    checkedApplyResidual pending.contactId pending.dx pending.dy
    return .recentered
  | none =>
    match c.settings.reaffirmInterval, c.activeContactId with
    | some interval, some contactId =>
      -- the times are subtracted with saturation
      if c.lastReaffirmAt.any fun last => now - last < interval then return .ignored
      match engine.state.position contactId with
      | none => return .ignored
      | some position =>
        unguarded (onEngine (moveContact contactId position))
        unguarded <| update fun c => { c with lastReaffirmAt := some now }
        return .reaffirmed
    | _, _ => return .ignored

def checkedRecenter (oldContactId : ContactId) (oldPosition : Point) (dx dy : ℤ) (now : ℕ) :
    CheckedM I MouseAimUpdate := do
  let (_, c) ← get
  if c.settings.recenterGap = 0 then
    unguarded (onEngine
      (submit (Contract.handOverFrame c.nextContactId c.aim.origin oldContactId oldPosition)))
    unguarded <| update fun d => { d with
      activeContactId := some c.nextContactId
      nextContactId := oldContactId
      lastReaffirmAt := some now }
    checkedApplyResidual c.nextContactId dx dy
  else
    unguarded (onEngine (endContact oldContactId))
    unguarded <| update fun d => { d with
      activeContactId := none
      pendingRecenter := some
        ⟨c.nextContactId, oldContactId, min (now + c.settings.recenterGap) durationMax, dx, dy⟩ }
  unguarded <| update fun d => { d with recenterCount := min (d.recenterCount + 1) u64Max }
  return .recentered

def checkedMoveBy (delta : MouseAimDelta) (now : ℕ) : CheckedM I MouseAimUpdate := do
  let (engine, c) ← get
  if delta.isZero || !c.isActive then return .ignored
  let ((dx, dy), scaled) ← guarded (c.checkedScaledDelta delta)
  unguarded <| update fun _ => scaled
  match c.pendingRecenter with
  | some pending =>
    unguarded <| update fun d => { d with pendingRecenter := some { pending with
      dx := saturateI64 (pending.dx + dx), dy := saturateI64 (pending.dy + dy) } }
    checkedTick now
  | none =>
    match c.activeContactId with
    | none => return .ignored
    | some contactId =>
      match engine.state.position contactId with
      | none => return .ignored
      | some current =>
        let moved ← guarded (checkedOffsetPoint current dx dy)
        let target := c.aim.region.clamp moved
        if target = current then return .ignored
        let past ← guarded (c.checkedPastRecenterThreshold target)
        if past then checkedRecenter contactId current dx dy now
        else do
          unguarded (onEngine (moveContact contactId target))
          unguarded <| update fun d => { d with lastReaffirmAt := some now }
          return .moved

/-- A call with its checks; the other calls do no plain arithmetic. -/
def checkedPerform : AimCall → CheckedM I Unit
  | .moveBy delta now => discard (checkedMoveBy delta now)
  | .tick now => discard (checkedTick now)
  | call => unguarded (perform call)

/-- Make a call, and go on unless it overflowed. -/
def checkedAttempted (call : AimCall) : CheckedM I Unit := do
  let _ ← (attemptWatched (checkedPerform call) : CheckedM I (Except TouchEngineError Unit))

/-! ### The checks change nothing -/

end MouseAimController

theorem checkedScaleStep_eq {carry delta numerator denominator : ℤ} {r : ℤ × ℤ}
    (h : checkedScaleStep carry delta numerator denominator = some r) :
    r = scaleStep carry delta numerator denominator := by
  unfold checkedScaleStep checkedRem at h
  unfold scaleStep
  split
  · next hden =>
    rw [if_pos hden] at h
    exact (Option.some.inj h).symm
  · next hden =>
    rw [if_neg hden] at h
    simp only [Option.bind_eq_bind, Option.bind_eq_some_iff, Option.pure_def,
      Option.some.injEq] at h
    obtain ⟨whole, hwhole, carry', ⟨-, -, rfl⟩, rfl⟩ := h
    rw [← checkedDiv_eq_some hwhole]

theorem checkedOffsetAxis_eq {value r : ℕ} {delta : ℤ} (h : checkedOffsetAxis value delta = some r) :
    r = aimOffsetAxis value delta := by
  unfold checkedOffsetAxis at h
  simp only [Option.bind_eq_bind, Option.bind_eq_some_iff, Option.pure_def, Option.some.injEq,
    checkedI64_eq_some] at h
  obtain ⟨_, ⟨hrange, rfl⟩, rfl⟩ := h
  have hwrap : wrapI64 (value + delta) = value + delta := by
    unfold i64Min i64Max at hrange
    rw [wrapI64, Int.bmod_eq_of_le] <;> omega
  unfold aimOffsetAxis
  rw [hwrap]

theorem checkedOffsetPoint_eq {point r : Point} {dx dy : ℤ}
    (h : checkedOffsetPoint point dx dy = some r) : r = offsetPoint point dx dy := by
  unfold checkedOffsetPoint at h
  simp only [Option.bind_eq_bind, Option.bind_eq_some_iff, Option.pure_def, Option.some.injEq] at h
  obtain ⟨x, hx, y, hy, rfl⟩ := h
  rw [offsetPoint, checkedOffsetAxis_eq hx, checkedOffsetAxis_eq hy]

namespace MouseAimController

variable {I : Type} [TouchInjector I]

theorem checkedScaledDelta_eq {c : MouseAimController} {delta : MouseAimDelta}
    {r : (ℤ × ℤ) × MouseAimController} (h : c.checkedScaledDelta delta = some r) :
    r = c.scaledDelta delta := by
  unfold checkedScaledDelta at h
  simp only [Option.bind_eq_bind, Option.bind_eq_some_iff, Option.pure_def, Option.some.injEq] at h
  obtain ⟨x, hx, y, hy, rfl⟩ := h
  rw [scaledDelta_inForce, checkedScaleStep_eq hx, checkedScaleStep_eq hy]

theorem checkedPastRecenterThreshold_eq {c : MouseAimController} {target : Point} {past : Bool}
    (h : c.checkedPastRecenterThreshold target = some past) :
    past = c.pastRecenterThreshold target := by
  unfold checkedPastRecenterThreshold at h
  simp only [Option.bind_eq_bind, Option.bind_eq_some_iff, Option.pure_def, Option.some.injEq,
    checkedI64_eq_some, checkedUnsigned_eq_some] at h
  obtain ⟨_, ⟨-, rfl⟩, _, ⟨-, rfl⟩, _, ⟨-, rfl⟩, _, ⟨-, rfl⟩, _, ⟨-, rfl⟩, rfl⟩ := h
  unfold pastRecenterThreshold
  simp only [Int.toNat_sub]

/-! ### The same controller -/

theorem checkedApplyResidual_guards (a : ContactId) (dx dy : ℤ) :
    Guards (checkedApplyResidual a dx dy : CheckedM I Unit) (applyResidual a dx dy) := by
  refine .read fun ⟨_, c⟩ => .guarded fun moved hmoved => ?_
  rw [checkedOffsetPoint_eq hmoved]
  exact .ite (guards_unguarded _) (guards_pure _)

theorem checkedTick_guards (now : ℕ) :
    Guards (checkedTick now : CheckedM I MouseAimUpdate) (tick now) := by
  refine .read fun ⟨engine, c⟩ => ?_
  cases hpending : c.pendingRecenter with
  | some pending =>
    simp only [hpending]
    exact .ite (guards_pure _) (.bind (guards_unguarded _) fun _ => .bind (guards_unguarded _)
      fun _ => .bind (checkedApplyResidual_guards _ _ _) fun _ => guards_pure _)
  | none =>
    simp only [hpending]
    cases c.settings.reaffirmInterval with
    | none => exact guards_pure _
    | some interval =>
      cases c.activeContactId with
      | none => exact guards_pure _
      | some contactId =>
        refine .ite (guards_pure _) ?_
        cases engine.state.position contactId with
        | none => exact guards_pure _
        | some position =>
          exact .bind (guards_unguarded _) fun _ => .bind (guards_unguarded _) fun _ =>
            guards_pure _

theorem checkedRecenter_guards (a : ContactId) (p : Point) (dx dy : ℤ) (now : ℕ) :
    Guards (checkedRecenter a p dx dy now : CheckedM I MouseAimUpdate) (recenter a p dx dy now) := by
  refine .read fun ⟨_, c⟩ => ?_
  have hrest : Guards (do
      unguarded <| update fun d => { d with recenterCount := min (d.recenterCount + 1) u64Max }
      return MouseAimUpdate.recentered : CheckedM I MouseAimUpdate) (do
      update fun d => { d with recenterCount := min (d.recenterCount + 1) u64Max }
      return MouseAimUpdate.recentered) := .bind (guards_unguarded _) fun _ => guards_pure _
  refine .ite ?_ ?_
  · exact .bind (guards_unguarded _) fun _ => .bind (guards_unguarded _) fun _ =>
      .bind (checkedApplyResidual_guards _ _ _) fun _ => hrest
  · exact .bind (guards_unguarded _) fun _ => .bind (guards_unguarded _) fun _ => hrest

theorem checkedMoveBy_guards (delta : MouseAimDelta) (now : ℕ) :
    Guards (checkedMoveBy delta now : CheckedM I MouseAimUpdate) (moveBy delta now) := by
  refine .read fun ⟨engine, c⟩ => .ite (guards_pure _) (.guarded fun ⟨⟨dx, dy⟩, scaled⟩ hr => ?_)
  rw [← checkedScaledDelta_eq hr]
  refine .bind (guards_unguarded _) fun _ => ?_
  cases c.pendingRecenter with
  | some pending => exact .bind (guards_unguarded _) fun _ => checkedTick_guards now
  | none =>
    cases c.activeContactId with
    | none => exact guards_pure _
    | some contactId =>
      cases hposition : engine.state.position contactId with
      | none =>
        simp only [hposition]
        exact guards_pure _
      | some current =>
        simp only [hposition]
        refine .guarded fun moved hmoved => ?_
        rw [checkedOffsetPoint_eq hmoved]
        refine .ite (guards_pure _) (.guarded fun past hpast => ?_)
        rw [checkedPastRecenterThreshold_eq hpast]
        exact .ite (checkedRecenter_guards _ _ _ _ _) (.bind (guards_unguarded _) fun _ =>
          .bind (guards_unguarded _) fun _ => guards_pure _)

/-- **Where a call does not overflow, the checks change nothing.** -/
theorem checkedPerform_guards (call : AimCall) :
    Guards (checkedPerform call : CheckedM I Unit) (perform call) := by
  cases call with
  | moveBy delta now => exact (checkedMoveBy_guards delta now).map _
  | tick now => exact (checkedTick_guards now).map _
  | activate now => exact guards_unguarded _
  | toggle now => exact guards_unguarded _
  | setAdsActive active => exact guards_unguarded _
  | deactivate => exact guards_unguarded _
  | cancel => exact guards_unguarded _

theorem checkedAttempted_guards (call : AimCall) :
    Guards (checkedAttempted call : CheckedM I Unit) (attempted call) :=
  (checkedPerform_guards call).attempt.bind fun _ => guards_pure _

end MouseAimController

end Wroid
