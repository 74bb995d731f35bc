import Mathlib.Data.List.Nodup
import Mathlib.Logic.Function.Basic
import Mathlib.Tactic.Common

namespace Lib

/-- What ends a run of a C++ program early: a failed assertion, a null or
dangling pointer, an iterator past its container, or the host's fatal error. -/
inductive Fault where
  | assertFailed
  | nullDeref
  | useAfterFree
  | outOfBounds
  | fatalError
deriving DecidableEq

abbrev Exec (α : Type) := Except Fault α

namespace Exec

def assert (p : Prop) [Decidable p] : Exec Unit :=
  if p then .ok () else .error .assertFailed

/-- `*p` for a pointer that may be null or dangling -/
def deref {α : Type} (fault : Fault) : Option α → Exec α
  | some value => .ok value
  | none => .error fault

variable {α β : Type}

@[simp] theorem assert_eq_ok (p : Prop) [Decidable p] (u : Unit) : assert p = .ok u ↔ p := by
  unfold assert
  split <;> simp_all

theorem assert_pos {p : Prop} [Decidable p] (holds : p) : assert p = .ok () := if_pos holds

theorem assert_neg {p : Prop} [Decidable p] (fails : ¬ p) :
    assert p = .error .assertFailed := if_neg fails

@[simp] theorem deref_some (fault : Fault) (value : α) : deref fault (some value) = .ok value := rfl

@[simp] theorem deref_none (fault : Fault) :
    deref fault (none : Option α) = .error fault := rfl

@[simp] theorem deref_eq_ok (fault : Fault) (pointer : Option α) (value : α) :
    deref fault pointer = .ok value ↔ pointer = some value := by
  cases pointer <;> simp

@[simp] theorem ok_bind (value : α) (next : α → Exec β) :
    (Except.ok value >>= next : Exec β) = next value := rfl

@[simp] theorem error_bind (fault : Fault) (next : α → Exec β) :
    ((Except.error fault : Exec α) >>= next) = .error fault := rfl

@[simp] theorem pure_eq_ok (value : α) : (pure value : Exec α) = .ok value := rfl

theorem bind_eq_ok {first : Exec α} {next : α → Exec β} {value : β} :
    (first >>= next) = .ok value ↔ ∃ middle, first = .ok middle ∧ next middle = .ok value := by
  cases first <;> simp

theorem bind_eq_error {first : Exec α} {next : α → Exec β} {fault : Fault} : (first >>= next) = .error fault ↔
      first = .error fault ∨ ∃ middle, first = .ok middle ∧ next middle = .error fault := by
  cases first <;> simp

theorem map_eq_ok {result : Exec α} {f : α → β} {value : β} (maps : result.map f = .ok value) :
    ∃ a, result = .ok a ∧ f a = value := by
  cases result with
  | error fault => cases maps
  | ok a =>
      cases maps
      exact ⟨a, rfl, rfl⟩

/-! ### Loops -/

section

variable {ι : Type}

/-- A loop none of whose rounds fails is a fold. -/
theorem foldlM_ok {f : β → α → Exec β} {g : β → α → β} {l : List α} (start : β)
    (each : ∀ state, ∀ a ∈ l, f state a = .ok (g state a)) : l.foldlM f start = .ok (l.foldl g start) := by
  induction l generalizing start with
  | nil => rfl
  | cons head rest ih =>
      rw [List.foldlM_cons, each start head List.mem_cons_self, ok_bind, List.foldl_cons]
      exact ih _ fun state a member => each state a (List.mem_cons_of_mem _ member)

/-- A loop over some cells of an array in which each round replaces one cell, whatever the others are by then -/
theorem foldlM_update [DecidableEq ι] {round : (ι → α) → ι → Exec (ι → α)} {cells new : ι → α} {l : List ι}
    (nodup : l.Nodup)
    (each : ∀ now, ∀ i ∈ l, now i = cells i → round now i = .ok (Function.update now i (new i))) :
    l.foldlM round cells = .ok fun i => if i ∈ l then new i else cells i := by
  induction l generalizing cells with
  | nil => simp
  | cons head rest ih =>
      obtain ⟨fresh, nodup⟩ := List.nodup_cons.mp nodup
      rw [List.foldlM_cons, each cells head List.mem_cons_self rfl, ok_bind, ih nodup]
      · congr 1
        funext i
        by_cases same : i = head
        · subst same
          simp [fresh]
        · simp [same]
      · intro now i member kept
        have other : i ≠ head := fun same => fresh (same ▸ member)
        rw [Function.update_of_ne other] at kept
        exact each now i (List.mem_cons_of_mem _ member) kept

theorem foldl_filter_append (p : α → Bool) (start l : List α) :
    l.foldl (fun kept a => if p a then kept ++ [a] else kept) start = start ++ l.filter p := by
  induction l generalizing start with
  | nil => simp
  | cons head rest ih =>
      rw [List.foldl_cons, ih]
      by_cases holds : p head <;> simp [holds]

end

end Exec

-- the rules by which proofs take runs apart
export Exec (bind_eq_ok ok_bind assert_pos assert_neg assert_eq_ok deref_some deref_eq_ok map_eq_ok pure_eq_ok)

end Lib
