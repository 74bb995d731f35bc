import Mathlib.Data.List.Sort
import Mathlib.Order.Defs.LinearOrder

namespace Lib

variable {α τ : Type} [LinearOrder τ]

/-- Every element is no smaller than its parent. -/
def IsHeap (key : α → τ) (l : List α) : Prop :=
  ∀ c, (inside : c < l.length) → key l[(c - 1) / 2] ≤ key l[c]

/-- The front of a heap is minimal. -/
theorem IsHeap.front_le {key : α → τ} {front : α} {rest : List α}
    (heap : IsHeap key (front :: rest)) : ∀ x ∈ front :: rest, key front ≤ key x := by
  have byIndex : ∀ c, (inside : c < (front :: rest).length) →
      key front ≤ key ((front :: rest).get ⟨c, inside⟩) := by
    intro c
    induction c using Nat.strongRecOn with
    | ind c ih =>
        intro inside
        cases c with
        | zero => exact le_rfl
        | succ c =>
            have parent := ih ((c + 1 - 1) / 2) (by omega) (by omega)
            exact le_trans parent (heap (c + 1) inside)
  intro x member
  obtain ⟨c, found⟩ := List.get_of_mem member
  rw [← found]
  exact byIndex c c.isLt

theorem IsHeap.of_sorted {key : α → τ} {l : List α}
    (sorted : l.Pairwise fun a b => key a ≤ key b) : IsHeap key l := by
  intro c inside
  rcases Nat.lt_or_ge ((c - 1) / 2) c with below | above
  · exact List.pairwise_iff_getElem.mp sorted _ _ (by omega) inside below
  · have root : c = 0 := by omega
    subst root
    exact le_rfl

theorem IsHeap.congr {key key' : α → τ} {l : List α} (same : ∀ x ∈ l, key x = key' x)
    (heap : IsHeap key l) : IsHeap key' l := by
  intro c inside
  rw [← same _ (List.getElem_mem _), ← same _ (List.getElem_mem _)]
  exact heap c inside

variable (τ) in
/-- The heap algorithms of a standard library, as far as their specification goes. -/
structure StdHeap where
  makeHeap : {α : Type} → (α → τ) → List α → List α
  popHeap : {α : Type} → (α → τ) → List α → List α
  makeHeap_perm : ∀ {α : Type} (key : α → τ) (l : List α), (makeHeap key l).Perm l
  makeHeap_isHeap : ∀ {α : Type} (key : α → τ) (l : List α), IsHeap key (makeHeap key l)
  popHeap_cons : ∀ {α : Type} (key : α → τ) (front : α) (rest : List α),
    IsHeap key (front :: rest) → ∃ rest', popHeap key (front :: rest) = rest' ++ [front] ∧
      rest'.Perm rest ∧ IsHeap key rest'

namespace StdHeap

theorem isHeap_insertionSort (key : α → τ) (l : List α) :
    IsHeap key (l.insertionSort fun a b => key a ≤ key b) := by
  have total : Std.Total fun a b => key a ≤ key b := ⟨fun a b => le_total (key a) (key b)⟩
  have trans : IsTrans α fun a b => key a ≤ key b := ⟨fun _ _ _ => le_trans⟩
  exact IsHeap.of_sorted (List.pairwise_insertionSort _ l)

/-- An implementation that keeps the whole heap sorted. -/
def sorted : StdHeap τ where
  makeHeap key l := l.insertionSort fun a b => key a ≤ key b
  popHeap key l := match l with
    | [] => []
    | front :: rest => (rest.insertionSort fun a b => key a ≤ key b) ++ [front]
  makeHeap_perm _ l := List.perm_insertionSort _ l
  makeHeap_isHeap := isHeap_insertionSort
  popHeap_cons key _ rest _ :=
    ⟨_, rfl, List.perm_insertionSort _ rest, isHeap_insertionSort key rest⟩

end StdHeap

end Lib
