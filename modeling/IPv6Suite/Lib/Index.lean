import Mathlib.Logic.Function.Basic
import Mathlib.Tactic.Common

namespace Lib

variable {ι κ α : Type}

/-- The map leads from the key of each object of a store to the object, and from no other key. -/
def Index (key : α → κ) (store : ι → Option α) (map : κ → Option ι) : Prop :=
  ∀ k p, map k = some p ↔ (store p).map key = some k

namespace Index

variable {key : α → κ} {store : ι → Option α} {map map' : κ → Option ι} {p : ι} {a : α} {o : Option α}

theorem empty (key : α → κ) : Index key (fun _ : ι => none) fun _ => none := by
  intro k p
  simp

theorem find (index : Index key store map) (stored : store p = some a) : map (key a) = some p := by
  apply (index _ _).mpr
  rw [stored]
  rfl

variable [DecidableEq ι] [DecidableEq κ]

/-- How a map follows when the object at `p` becomes `o` -/
def Follows (key : α → κ) (store : ι → Option α) (p : ι) (o : Option α) (map map' : κ → Option ι) : Prop :=
  ∀ k, map' k = if o.map key = some k then some p else if (store p).map key = some k then none else map k

namespace Follows

theorem add (b : α) (absent : store p = none) :
    Follows key store p (some b) map (Function.update map (key b) (some p)) := by
  intro k
  rw [absent, Function.update_apply]
  by_cases here : k = key b
  · simp [here]
  · simp [here, Ne.symm here]

theorem change (b : α) (stored : store p = some a) : Follows key store p (some b) map
    (Function.update (Function.update map (key a) none) (key b) (some p)) := by
  intro k
  rw [stored, Function.update_apply, Function.update_apply]
  simp only [Option.map_some, Option.some.injEq, eq_comm]

theorem remove (stored : store p = some a) : Follows key store p none map (Function.update map (key a) none) := by
  intro k
  rw [stored, Function.update_apply]
  simp only [Option.map_none, Option.map_some, Option.some.injEq, eq_comm, reduceCtorEq, if_false]

/-- The map stays as it is if the key does. -/
theorem keep {b : α} (index : Index key store map) (stored : store p = some a) (same : key b = key a) :
    Follows key store p (some b) map map := by
  intro k
  rw [stored, Option.map_some, Option.map_some, same]
  by_cases here : key a = k
  · rw [if_pos (congrArg some here), ← here]
    exact index.find stored
  · have apart : ¬ some (key a) = some k := fun equal => here (Option.some.inj equal)
    rw [if_neg apart, if_neg apart]

end Follows

/-- An object is added, changed or removed; no other object may have its new key. -/
theorem update (index : Index key store map) (follows : Follows key store p o map map')
    (free : ∀ b ∈ o, ∀ q ∈ map (key b), q = p) : Index key (Function.update store p o) map' := by
  intro k q
  rw [follows k]
  by_cases here : q = p
  · rw [here, Function.update_self]
    by_cases new : o.map key = some k
    · simp [new]
    · have apart : map k = some p ↔ (store p).map key = some k := index k p
      by_cases old : (store p).map key = some k
      · simp [new, old]
      · simp [new, old, apart]
  · rw [Function.update_of_ne here, ← index k q]
    by_cases new : o.map key = some k
    · obtain ⟨b, filled, rfl⟩ := Option.map_eq_some_iff.mp new
      have taken (stored : map (key b) = some q) : False := here (free b filled q stored)
      simp only [new, if_true, Option.some.injEq]
      constructor
      · intro same
        exact absurd same.symm here
      · intro stored
        exact (taken stored).elim
    · rw [if_neg new]
      by_cases old : (store p).map key = some k
      · rw [if_pos old, (index k p).mpr old]
        simp [Ne.symm here]
      · rw [if_neg old]

/-- The map is an index afterwards if and only if no other object had the new key. -/
theorem update_iff (index : Index key store map) (follows : Follows key store p o map map') :
    Index key (Function.update store p o) map' ↔ ∀ b ∈ o, ∀ q ∈ map (key b), q = p := by
  constructor
  · intro index' b filled q stored
    by_contra other
    have still : (Function.update store p o q).map key = some (key b) := by
      rw [Function.update_of_ne other]
      exact (index _ _).mp stored
    have found := (index' _ _).mpr still
    have new : o.map key = some (key b) := by
      rw [Option.mem_def.mp filled]
      rfl
    rw [follows, if_pos new] at found
    cases found
    exact other rfl
  · exact index.update follows

end Index

end Lib
