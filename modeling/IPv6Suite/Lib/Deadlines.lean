import Mathlib.Logic.Function.Basic
import Mathlib.Order.Lattice
import Mathlib.Tactic.Common

namespace Lib

/-- A message that a component sends to itself. Its time of arrival can still be read when it is not
scheduled any more. -/
structure Alarm (τ : Type) where
  arrivalTime : τ
  scheduled : Bool
deriving DecidableEq

/-- The self messages of a component, one of each kind -/
abbrev Alarms (κ τ : Type) := κ → Alarm τ

namespace Alarms

variable {κ τ : Type} [DecidableEq κ]

def idle (time : τ) : Alarms κ τ := fun _ => ⟨time, false⟩

def schedule (a : Alarms κ τ) (k : κ) (time : τ) : Alarms κ τ := Function.update a k ⟨time, true⟩

def cancel (a : Alarms κ τ) (k : κ) : Alarms κ τ := Function.update a k { a k with scheduled := false }

def On (a : Alarms κ τ) (k : κ) : Prop := (a k).scheduled = true
deriving Decidable

variable {a : Alarms κ τ} {strict : Prop} {p q : κ → Prop}

theorem on_schedule (a : Alarms κ τ) (k : κ) (time : τ) (j : κ) : (a.schedule k time).On j ↔ j = k ∨ a.On j := by
  unfold On schedule
  by_cases own : j = k
  · subst own
    rw [Function.update_self]
    exact iff_of_true rfl (.inl rfl)
  · rw [Function.update_of_ne own]
    exact (or_iff_right own).symm

theorem on_cancel (a : Alarms κ τ) (k j : κ) : (a.cancel k).On j ↔ j ≠ k ∧ a.On j := by
  unfold On cancel
  by_cases own : j = k
  · subst own
    rw [Function.update_self]
    exact iff_of_false Bool.false_ne_true fun both => both.1 rfl
  · rw [Function.update_of_ne own]
    exact (and_iff_right own).symm

/-- Only what is in `p` is scheduled, and if the keeping is strict, all of it. -/
def Held (a : Alarms κ τ) (strict : Prop) (p : κ → Prop) : Prop :=
  (∀ k, a.On k → p k) ∧ (strict → ∀ k, p k → a.On k)

omit [DecidableEq κ] in
theorem held_idle (strict : Prop) (time : τ) : (idle time : Alarms κ τ).Held strict fun _ => False :=
  ⟨fun _ on => (Bool.false_ne_true on).elim, fun _ _ => False.elim⟩

omit [DecidableEq κ] in
theorem Held.congr (held : a.Held strict p) (same : ∀ j, q j ↔ p j) : a.Held strict q :=
  ⟨fun j on => (same j).mpr (held.1 j on), fun tight j due => held.2 tight j ((same j).mp due)⟩

theorem Held.schedule (held : a.Held strict p) {k : κ} {time : τ} (same : ∀ j, q j ↔ j = k ∨ p j) :
    (a.schedule k time).Held strict q := by
  refine ⟨fun j on => (same j).mpr ?_, fun tight j due => (on_schedule a k time j).mpr ?_⟩
  · exact ((on_schedule a k time j).mp on).imp_right (held.1 j)
  · exact ((same j).mp due).imp_right (held.2 tight j)

theorem Held.cancel (held : a.Held strict p) {k : κ} (same : ∀ j, q j ↔ j ≠ k ∧ p j) :
    (a.cancel k).Held strict q := by
  refine ⟨fun j on => (same j).mpr ?_, fun tight j due => (on_cancel a k j).mpr ?_⟩
  · exact ((on_cancel a k j).mp on).imp_right (held.1 j)
  · exact ((same j).mp due).imp_right (held.2 tight j)

/-- Without strict keeping, any one can be cancelled. -/
theorem Held.release (held : a.Held strict p) (loose : ¬ strict) (k : κ) : (a.cancel k).Held strict p :=
  ⟨fun j on => held.1 j ((on_cancel a k j).mp on).2, fun tight => (loose tight).elim⟩

end Alarms

/-- One step of a component that expires entries, as an observer sees it. -/
inductive DeadlineLabel (α τ : Type) where
  | queue (p : α) (due : τ)
  | drop (p : α)
  | expire (p : α)
  | idle
  | advance (t : τ)
deriving DecidableEq

/-- The clock and the deadline of every entry that is waiting. -/
structure Deadlines (α τ : Type) where
  due : α → Option τ
  now : τ

namespace Deadlines

variable {α τ : Type} [DecidableEq α]

def start (now : τ) : Deadlines α τ := ⟨fun _ => none, now⟩

def after (d : Deadlines α τ) : DeadlineLabel α τ → Deadlines α τ
  | .queue p due => { d with due := Function.update d.due p (some due) }
  | .drop p => { d with due := Function.update d.due p none }
  | .expire p => { d with due := Function.update d.due p none }
  | .idle => d
  | .advance t => { d with now := t }

variable [LinearOrder τ]

/-- An entry expires at its deadline, and the clock does not pass a deadline. -/
def Allows (d : Deadlines α τ) : DeadlineLabel α τ → Prop
  | .queue _ _ => True
  | .drop _ => True
  | .expire p => d.due p = some d.now
  | .idle => True
  | .advance t => d.now ≤ t ∧ ∀ p u, d.due p = some u → t ≤ u

/-- Every step of the log is allowed where it is taken. -/
def Accepts : Deadlines α τ → List (DeadlineLabel α τ) → Prop
  | _, [] => True
  | d, label :: rest => d.Allows label ∧ (d.after label).Accepts rest

end Deadlines

end Lib
