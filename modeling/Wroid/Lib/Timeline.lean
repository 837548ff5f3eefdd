import Mathlib

/-!
# What undo and redo mean

A document with its changes: the versions before each change that was not undone, the
document itself, and the versions that undoing took back.  A change that leaves the document
as it is counts for nothing.  Only so many versions are kept.

## Main definitions

* `Timeline` — a document between its past and its future.
* `Timeline.become`, `Timeline.undo`, `Timeline.redo` — a change and its ways back and forth.
* `Timeline.Within` — the timeline keeps to its limit.

## Main results

* `undo_become` — **undoing a change restores the document before it.**
* `redo_undo`, `undo_redo` — **redo and undo take each other back.**
* `Within.become`, `Within.undo`, `Within.redo` — the limit is kept.
-/

namespace Wroid.Lib

/-- A document between the versions before its changes and those that were undone; the
nearest version comes first on both sides. -/
structure Timeline (α : Type) where
  past : List α
  present : α
  future : List α

namespace Timeline

variable {α : Type} {limit : ℕ} {t : Timeline α} {a : α}

/-- A document that was not changed yet. -/
def fresh (a : α) : Timeline α := ⟨[], a, []⟩

/-- The document has become this one; `limit` old versions are kept. -/
noncomputable def become (limit : ℕ) (a : α) (t : Timeline α) : Timeline α :=
  open Classical in if a = t.present then t else ⟨(t.present :: t.past).take limit, a, []⟩

/-- Back to the version before the latest change, if it is kept. -/
def undo (t : Timeline α) : Timeline α :=
  match t.past with
  | [] => t
  | previous :: past => ⟨past, previous, t.present :: t.future⟩

/-- Forth to the version the latest undo took back, if there is one. -/
def redo (t : Timeline α) : Timeline α :=
  match t.future with
  | [] => t
  | next :: future => ⟨t.present :: t.past, next, future⟩

/-- At most so many versions are kept on both sides together. -/
def Within (limit : ℕ) (t : Timeline α) : Prop := t.past.length + t.future.length ≤ limit

theorem become_same : t.become limit t.present = t := if_pos rfl

theorem become_of_ne (h : a ≠ t.present) :
    t.become limit a = ⟨(t.present :: t.past).take limit, a, []⟩ := if_neg h

@[simp] theorem present_become : (t.become limit a).present = a := by
  by_cases h : a = t.present
  · rw [h, become_same]
  · rw [become_of_ne h]

/-- **Undoing a change restores the document before it.** -/
theorem undo_become (hlimit : 0 < limit) (h : a ≠ t.present) :
    (t.become limit a).undo.present = t.present := by
  obtain ⟨n, rfl⟩ := Nat.exists_eq_succ_of_ne_zero hlimit.ne'
  rw [become_of_ne h]
  rfl

/-- **Redo takes an undo back.** -/
theorem redo_undo (h : t.past ≠ []) : t.undo.redo = t := by
  obtain ⟨past, present, future⟩ := t
  cases past with
  | nil => exact absurd rfl h
  | cons previous past => rfl

/-- **Undo takes a redo back.** -/
theorem undo_redo (h : t.future ≠ []) : t.redo.undo = t := by
  obtain ⟨past, present, future⟩ := t
  cases future with
  | nil => exact absurd rfl h
  | cons next future => rfl

theorem within_fresh : Within limit (fresh a) := Nat.zero_le _

theorem Within.become (ht : t.Within limit) : (t.become limit a).Within limit := by
  by_cases h : a = t.present
  · rwa [h, become_same]
  · rw [become_of_ne h]
    exact List.length_take_le _ _

theorem Within.undo (ht : t.Within limit) : t.undo.Within limit := by
  obtain ⟨past, present, future⟩ := t
  cases past with
  | nil => exact ht
  | cons previous past =>
    simp only [Within, Timeline.undo, List.length_cons] at ht ⊢
    omega

theorem Within.redo (ht : t.Within limit) : t.redo.Within limit := by
  obtain ⟨past, present, future⟩ := t
  cases future with
  | nil => exact ht
  | cons next future =>
    simp only [Within, Timeline.redo, List.length_cons] at ht ⊢
    omega

end Timeline

end Wroid.Lib
