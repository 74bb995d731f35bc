import Mathlib.Data.List.Lex
import Mathlib.Data.Prod.Lex
import Mathlib.Order.Defs.Unbundled

namespace Lib

section

variable {α β : Type} {lt : α → α → Prop} [LinearOrder β]

/-- An order that compares ranks is a strict weak one. -/
theorem isStrictWeakOrder_of_rank (rank : α → β) (compares : ∀ a b, lt a b ↔ rank a < rank b) :
    IsStrictWeakOrder α lt where
  irrefl a := by
    rw [compares]
    exact lt_irrefl _
  trans a b c first second := by
    rw [compares] at *
    exact first.trans second
  incomp_trans a b c first second := by
    simp only [compares, not_lt] at *
    exact ⟨second.1.trans first.1, first.2.trans second.2⟩

theorem incomparable_iff {rank : α → β} (compares : ∀ a b, lt a b ↔ rank a < rank b) (a b : α) :
    (¬ lt a b ∧ ¬ lt b a) ↔ rank a = rank b := by
  rw [compares, compares, not_lt, not_lt]
  exact ⟨fun both => le_antisymm both.2 both.1, fun same => ⟨same.ge, same.le⟩⟩

/-- Where the first parts differ they are compared, and otherwise the rest is. -/
theorem lexicographic_iff {x y : β} {rest : Prop} [Decidable (¬ x = y)] :
    (if ¬ x = y then x < y else rest) ↔ x < y ∨ x = y ∧ rest := by
  by_cases same : x = y
  · rw [if_neg (not_not_intro same), same]
    simp only [lt_irrefl, false_or, true_and]
  · rw [if_pos same]
    simp only [same, false_and, or_false]

end

/-- `memcmp` of two memory areas of the same size -/
def memcmp : (a b : List (BitVec 8)) → Int
  | x :: a, y :: b => if x = y then memcmp a b else x.toNat - y.toNat
  | _, _ => 0

theorem memcmp_neg {a b : List (BitVec 8)} (size : a.length = b.length) :
    memcmp a b < 0 ↔ a.map BitVec.toNat < b.map BitVec.toNat := by
  induction a generalizing b with
  | nil =>
      rw [List.length_nil, eq_comm, List.length_eq_zero_iff] at size
      subst size
      exact iff_of_false (Int.lt_irrefl 0) (lt_irrefl _)
  | cons x a ih =>
      cases b with
      | nil => cases size
      | cons y b =>
          rw [List.map_cons, List.map_cons, List.cons_lt_cons_iff]
          unfold memcmp
          split
          · rename_i same
            rw [ih (Nat.succ.inj size), same]
            simp only [lt_irrefl, false_or, true_and]
          · rename_i differ
            rw [← BitVec.toNat_inj] at differ
            simp only [differ, false_and, or_false]
            omega

end Lib
