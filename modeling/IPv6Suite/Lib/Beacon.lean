import IPv6Suite.Lib.Machine
import Mathlib.Algebra.Order.Monoid.Defs

namespace Lib

/-- A timer that fires again and again and that requests move: when it was set last and when it is due,
when it has fired, and when it was requested to -/
structure Beacon (τ : Type) where
  now : τ
  timer : Option (τ × τ)
  fired : List τ
  requests : List τ

/-- What happens to a beacon; a request may leave the timer as it is. -/
inductive BeaconLabel (τ : Type) where
  | idle
  | advance (t : τ)
  | fire (due : τ)
  | request (moved : Option τ)

namespace Beacon

variable {τ : Type}

def start (now : τ) : Beacon τ := ⟨now, none, [], []⟩

def after (b : Beacon τ) : BeaconLabel τ → Beacon τ
  | .idle => b
  | .advance t => { b with now := t }
  | .fire due => { b with timer := some (b.now, due), fired := b.fired ++ [b.now] }
  | .request none => { b with requests := b.requests ++ [b.now] }
  | .request (some due) => { b with timer := some (b.now, due), requests := b.requests ++ [b.now] }

def step (b : Beacon τ) (label : BeaconLabel τ) : Exec (Beacon τ) := .ok (b.after label)

variable [AddCommMonoid τ] [LinearOrder τ] {gap bound : τ} {b : Beacon τ} {label : BeaconLabel τ}

/-- The clock does not pass the timer, which fires when it is due or for the first time, and it is not set to
a time less than `gap` after it was set before. -/
def Allows (gap : τ) (b : Beacon τ) : BeaconLabel τ → Prop
  | .idle => True
  | .advance t => b.now ≤ t ∧ ∀ p ∈ b.timer, t ≤ p.2
  | .fire due => (∀ p ∈ b.timer, p.2 = b.now) ∧ b.now ≤ due ∧ b.now + gap ≤ due
  | .request moved => ∃ p, b.timer = some p ∧ ∀ due ∈ moved, b.now ≤ due ∧ p.1 + gap ≤ due

/-- A request does not put off a timer that was set before, and leaves it at a time within the bound. -/
def Prompt (bound : τ) (b : Beacon τ) : BeaconLabel τ → Prop
  | .request moved => ∀ p ∈ b.timer, p.1 ≤ b.now → moved.getD p.2 ≤ p.2 ∧ moved.getD p.2 ≤ b.now + bound
  | _ => True

/-- What the timer keeps of the times at which it has fired -/
structure Spaced (gap : τ) (b : Beacon τ) : Prop where
  set : ∀ p ∈ b.timer, p.1 ≤ b.now ∧ b.now ≤ p.2
  fired : ∀ a ∈ b.fired, ∃ p, b.timer = some p ∧ a ≤ p.1 ∧ a + gap ≤ p.2
  apart : b.fired.Pairwise fun a a' => a + gap ≤ a'

/-- Every request has been met in time, or the timer is due in time. -/
def Promises (bound : τ) (b : Beacon τ) : Prop :=
  ∀ r ∈ b.requests, r ≤ b.now ∧
    ((∃ a ∈ b.fired, r ≤ a ∧ a ≤ r + bound) ∨ ∃ p, b.timer = some p ∧ p.2 ≤ r + bound)

theorem spaced_start (now : τ) : Spaced gap (start now) := ⟨nofun, nofun, List.Pairwise.nil⟩

theorem promises_start (now : τ) : Promises bound (start now) := nofun

theorem Spaced.after [IsOrderedAddMonoid τ] (spaced : b.Spaced gap) (allowed : b.Allows gap label) :
    (b.after label).Spaced gap := by
  obtain ⟨set, fired, apart⟩ := spaced
  cases label with
  | idle => exact ⟨set, fired, apart⟩
  | advance t =>
      obtain ⟨forward, inside⟩ := allowed
      exact ⟨fun p timer => ⟨(set p timer).1.trans forward, inside p timer⟩, fired, apart⟩
  | fire due =>
      obtain ⟨reached, later, far⟩ := allowed
      have before : ∀ a ∈ b.fired, a + gap ≤ b.now ∧ a ≤ b.now := by
        intro a member
        obtain ⟨p, timer, earlier, away⟩ := fired a member
        rw [← reached p timer]
        exact ⟨away, earlier.trans ((set p timer).1.trans (set p timer).2)⟩
      refine ⟨fun p timer => ?_, fun a member => ⟨_, rfl, ?_⟩, List.pairwise_append.mpr ⟨apart, ?_, ?_⟩⟩
      · cases timer
        exact ⟨le_rfl, later⟩
      · rcases List.mem_append.mp member with old | new
        · exact ⟨(before a old).2, (before a old).1.trans later⟩
        · cases List.mem_singleton.mp new
          exact ⟨le_rfl, far⟩
      · exact List.pairwise_singleton _ _
      · intro a old a' new
        cases List.mem_singleton.mp new
        exact (before a old).1
  | request moved =>
      obtain ⟨p, timer, far⟩ := allowed
      cases moved with
      | none => exact ⟨set, fired, apart⟩
      | some due =>
          obtain ⟨later, far⟩ := far due rfl
          refine ⟨fun p' timer' => ?_, fun a member => ⟨_, rfl, ?_⟩, apart⟩
          · cases timer'
            exact ⟨le_rfl, later⟩
          · obtain ⟨p', timer', earlier, away⟩ := fired a member
            cases timer.symm.trans timer'
            exact ⟨earlier.trans (set p timer).1, (add_le_add_left earlier gap).trans far⟩

theorem Promises.after (promises : b.Promises bound) (set : ∀ p ∈ b.timer, p.1 ≤ b.now)
    (allowed : b.Allows gap label) (prompt : b.Prompt bound label) : (b.after label).Promises bound := by
  cases label with
  | idle => exact promises
  | advance t =>
      intro r member
      exact ⟨(promises r member).1.trans allowed.1, (promises r member).2⟩
  | fire due =>
      obtain ⟨reached, later, far⟩ := allowed
      intro r member
      obtain ⟨past, met | ⟨p, timer, inside⟩⟩ := promises r member
      · obtain ⟨a, old, within⟩ := met
        exact ⟨past, Or.inl ⟨a, List.mem_append_left _ old, within⟩⟩
      · rw [reached p timer] at inside
        exact ⟨past, Or.inl ⟨b.now, List.mem_append_right _ (List.mem_singleton_self _), past, inside⟩⟩
  | request moved =>
      obtain ⟨p, timer, far⟩ := allowed
      obtain ⟨kept, soon⟩ := prompt p timer (set p timer)
      have moves : (b.after (.request moved)).fired = b.fired ∧ (b.after (.request moved)).now = b.now ∧
          (b.after (.request moved)).requests = b.requests ++ [b.now] ∧
          ∃ p', (b.after (.request moved)).timer = some p' ∧ p'.2 = moved.getD p.2 := by
        cases moved with
        | none => exact ⟨rfl, rfl, rfl, p, timer, rfl⟩
        | some due => exact ⟨rfl, rfl, rfl, _, rfl, rfl⟩
      obtain ⟨fired, now, requests, p', timer', due⟩ := moves
      unfold Promises
      rw [fired, now, requests, timer']
      intro r member
      rcases List.mem_append.mp member with old | new
      · obtain ⟨past, met | ⟨_, before, inside⟩⟩ := promises r old
        · exact ⟨past, Or.inl met⟩
        · cases timer.symm.trans before
          exact ⟨past, Or.inr ⟨p', rfl, due.trans_le (kept.trans inside)⟩⟩
      · cases List.mem_singleton.mp new
        exact ⟨le_rfl, Or.inr ⟨p', rfl, due.trans_le soon⟩⟩

/-- A beacon fires at times that are at least `gap` apart. -/
theorem spaced_of_runs [IsOrderedAddMonoid τ] {now : τ} {labels : List (BeaconLabel τ)}
    (runs : Runs step (Allows gap) (start now) labels b) : b.Spaced gap := by
  refine runs.invariant (Spaced gap) (fun b label b' spaced allowed steps => ?_) (spaced_start now)
  cases steps
  exact spaced.after allowed

/-- A beacon whose requests are all prompt fires within the bound after each of them. -/
theorem answered_of_runs [IsOrderedAddMonoid τ] {now : τ} {labels : List (BeaconLabel τ)}
    (runs : Runs step (fun b label => b.Allows gap label ∧ b.Prompt bound label) (start now) labels b) {r : τ}
    (requested : r ∈ b.requests) (late : r + bound < b.now) : ∃ a ∈ b.fired, r ≤ a ∧ a ≤ r + bound := by
  have kept := runs.invariant (fun b => b.Spaced gap ∧ b.Promises bound) (fun b label b' kept allowed steps => by
    cases steps
    exact ⟨kept.1.after allowed.1, kept.2.after (fun p timer => (kept.1.set p timer).1) allowed.1 allowed.2⟩) ⟨spaced_start now, promises_start now⟩
  obtain ⟨past, met | ⟨p, timer, inside⟩⟩ := kept.2 r requested
  · exact met
  · exact absurd ((kept.1.set p timer).2.trans inside) (not_le.mpr late)

end Beacon

end Lib
