import Mathlib.Algebra.BigOperators.Group.List.Basic
import Mathlib.Algebra.GroupWithZero.Nat

namespace Lib.Lists

variable {α β : Type}

variable {l : List α}

/-- What a function of the elements is for the one put at `j` takes the place of what it was. -/
theorem sum_map_set {f : α → Nat} {j : Nat} {a : α} (located : l[j]? = some a) (b : α) :
    ((l.set j b).map f).sum + f a = (l.map f).sum + f b := by
  induction l generalizing j with
  | nil => cases located
  | cons x rest ih =>
      cases j with
      | zero =>
          cases located
          simp only [List.set_cons_zero, List.map_cons, List.sum_cons]
          omega
      | succ j =>
          have tail := @ih j located
          simp only [List.set_cons_succ, List.map_cons, List.sum_cons]
          omega

theorem map_modify_of_same {f : α → α} {g : α → β} (same : ∀ a, g (f a) = g a) (n : Nat) (l : List α) :
    (l.modify n f).map g = l.map g := by
  apply List.ext_getElem?
  intro i
  rw [List.getElem?_map, List.getElem?_modify, List.getElem?_map]
  split
  · cases l[i]? with
    | none => rfl
    | some a => exact congrArg some (same a)
  · cases l[i]? <;> rfl

variable {f : α → List β} {i : Nat}

/-- An element that takes the place of another brings what it stands for, and takes away what that one stood for. -/
theorem perm_flatMap_set {old : α} (located : l[i]? = some old) (new : α) :
    ((l.set i new).flatMap f ++ f old).Perm (l.flatMap f ++ f new) := by
  induction l generalizing i with
  | nil => cases located
  | cons x rest ih =>
      cases i with
      | zero =>
          cases located
          rw [List.set_cons_zero, List.flatMap_cons, List.flatMap_cons, List.append_assoc, List.append_assoc]
          have back : (f new ++ (f old ++ rest.flatMap f)).Perm (f old ++ rest.flatMap f ++ f new) := List.perm_append_comm
          rw [List.append_assoc] at back
          exact (List.perm_append_comm.append_left _).trans back
      | succ i =>
          rw [List.set_cons_succ, List.flatMap_cons, List.flatMap_cons, List.append_assoc, List.append_assoc]
          exact (ih located).append_left _

theorem perm_flatMap_set_of_more {old new : α} {more : List β}
    (located : l[i]? = some old) (brings : (f new).Perm (f old ++ more)) :
    ((l.set i new).flatMap f).Perm (l.flatMap f ++ more) := by
  have swapped : (l.flatMap f ++ f new).Perm (l.flatMap f ++ (more ++ f old)) :=
    (brings.trans List.perm_append_comm).append_left _
  rw [← List.append_assoc] at swapped
  exact (List.perm_append_right_iff (f old)).mp ((perm_flatMap_set located new).trans swapped)

theorem perm_flatMap_set_of_less {old new : α} (less : List β)
    (located : l[i]? = some old) (takes : (f old).Perm (less ++ f new)) :
    (l.flatMap f).Perm (less ++ (l.set i new).flatMap f) := by
  have swapped : ((l.set i new).flatMap f ++ f old).Perm ((l.set i new).flatMap f ++ less ++ f new) := by
    rw [List.append_assoc]
    exact takes.append_left _
  have same := (perm_flatMap_set located new).symm.trans swapped
  exact ((List.perm_append_right_iff (f new)).mp same).trans List.perm_append_comm

section Removal

variable [BEq α] [LawfulBEq α]

theorem filter_foldl_erase (f : α → Bool) (removed l : List α) :
    (removed.foldl List.erase l).filter f = removed.foldl List.erase (l.filter f) := by
  induction removed generalizing l with
  | nil => rfl
  | cons a rest ih => rw [List.foldl_cons, List.foldl_cons, ih, List.erase_filter]

theorem foldl_erase_self (l : List α) : l.foldl List.erase l = [] := by
  induction l with
  | nil => rfl
  | cons a rest ih => rw [List.foldl_cons, List.erase_cons_head, ih]

theorem foldl_erase_of_not_mem {removed l : List α} (apart : ∀ a ∈ removed, a ∉ l) : removed.foldl List.erase l = l := by
  induction removed with
  | nil => rfl
  | cons a rest ih =>
      rw [List.foldl_cons, List.erase_of_not_mem (apart a (List.mem_cons_self ..))]
      exact ih fun b mem => apart b (List.mem_cons_of_mem _ mem)

/-- Two lists have the same elements if they do for each key. -/
theorem perm_of_filter_perm {κ : Type} [DecidableEq κ] {l m : List α} (key : α → κ)
    (same : ∀ k, (l.filter (key · = k)).Perm (m.filter (key · = k))) : l.Perm m := by
  rw [List.perm_iff_count]
  intro a
  have own := (same (key a)).count_eq a
  have counted : ∀ n : List α, (n.filter (key · = key a)).count a = n.count a := fun n =>
    List.count_filter (p := (key · = key a)) (decide_eq_true rfl)
  rw [counted, counted] at own
  exact own

end Removal

end Lib.Lists
