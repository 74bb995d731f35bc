import Mathlib.Data.List.Nodup

namespace Lib.KeyList

variable {α κ : Type} [DecidableEq κ] (key : α → κ)

/-- The first element with the key -/
def find (k : κ) (xs : List α) : Option α := xs.find? fun x => key x = k

/-- What is assigned through a pointer to the first element with the key -/
def modify (k : κ) (f : α → α) : List α → List α
  | [] => []
  | x :: xs => if key x = k then f x :: xs else x :: modify k f xs

/-- Unlinks the first element with the key. -/
def remove (k : κ) (xs : List α) : List α := xs.eraseP fun x => key x = k

/-- The key of what is behind the first element with the key -/
def next (k : κ) : List α → Option κ
  | [] => none
  | x :: xs => if key x = k then xs.head?.map key else next k xs

def Distinct (xs : List α) : Prop := (xs.map key).Nodup

variable {key} {k other : κ} {x y : α} {xs : List α} {f : α → α}

theorem find_cons_pos (same : key x = k) : find key k (x :: xs) = some x :=
  List.find?_cons_of_pos (decide_eq_true same)

theorem find_cons_neg (differs : key x ≠ k) : find key k (x :: xs) = find key k xs :=
  List.find?_cons_of_neg (by rwa [decide_eq_true_eq])

theorem find_key (found : find key k xs = some x) : key x = k :=
  of_decide_eq_true (List.find?_some (p := fun x => decide (key x = k)) found)

theorem mem_of_find (found : find key k xs = some x) : x ∈ xs := List.mem_of_find?_eq_some found

theorem find_eq_none : find key k xs = none ↔ k ∉ xs.map key := by
  unfold find
  simp only [List.find?_eq_none, decide_eq_true_eq, List.mem_map, not_exists, not_and]

theorem find_isSome : (find key k xs).isSome ↔ k ∈ xs.map key := by
  rw [← not_iff_not, ← find_eq_none, Option.not_isSome_iff_eq_none]

theorem Distinct.find (distinct : Distinct key xs) (member : x ∈ xs) : find key (key x) xs = some x := by
  induction xs with
  | nil => cases member
  | cons head rest ih =>
      obtain ⟨absent, later⟩ := List.nodup_cons.mp distinct
      rcases List.mem_cons.mp member with rfl | behind
      · exact find_cons_pos rfl
      · have differs : key head ≠ key x := by
          intro same
          rw [same] at absent
          exact absent (List.mem_map_of_mem behind)
        rw [find_cons_neg differs]
        exact ih later behind

theorem Distinct.cons (distinct : Distinct key xs) (absent : KeyList.find key (key x) xs = none) :
    Distinct key (x :: xs) :=
  List.nodup_cons.mpr ⟨find_eq_none.mp absent, distinct⟩

theorem length_modify : (modify key k f xs).length = xs.length := by
  induction xs with
  | nil => rfl
  | cons x xs ih =>
      unfold modify
      split
      · rfl
      · rw [List.length_cons, List.length_cons, ih]

/-- What is in the list afterwards was there before, or is the element that was assigned. -/
theorem mem_modify (member : y ∈ modify key k f xs) : y ∈ xs ∨ ∃ x, find key k xs = some x ∧ y = f x := by
  induction xs with
  | nil => cases member
  | cons x xs ih =>
      unfold modify at member
      split at member
      · rename_i same
        rcases List.mem_cons.mp member with rfl | behind
        · exact Or.inr ⟨x, find_cons_pos same, rfl⟩
        · exact Or.inl (List.mem_cons_of_mem _ behind)
      · rename_i differs
        rcases List.mem_cons.mp member with rfl | behind
        · exact Or.inl List.mem_cons_self
        · rw [find_cons_neg differs]
          rcases ih behind with before | assigned
          · exact Or.inl (List.mem_cons_of_mem _ before)
          · exact Or.inr assigned

section Modify

variable (keeps : ∀ x, key x = k → key (f x) = k)

include keeps

theorem modify_keys : (modify key k f xs).map key = xs.map key := by
  induction xs with
  | nil => rfl
  | cons x xs ih =>
      unfold modify
      split
      · rename_i same
        rw [List.map_cons, List.map_cons, keeps x same, same]
      · rw [List.map_cons, List.map_cons, ih]

theorem Distinct.modify (distinct : Distinct key xs) : Distinct key (modify key k f xs) := by
  unfold Distinct
  rw [modify_keys keeps]
  exact distinct

theorem find_modify_same : find key k (modify key k f xs) = (find key k xs).map f := by
  induction xs with
  | nil => rfl
  | cons x xs ih =>
      unfold modify
      split
      · rename_i same
        rw [find_cons_pos (keeps x same), find_cons_pos same, Option.map_some]
      · rename_i differs
        rw [find_cons_neg differs, find_cons_neg differs, ih]

theorem find_modify_ne (differs : k ≠ other) : find key other (modify key k f xs) = find key other xs := by
  induction xs with
  | nil => rfl
  | cons x xs ih =>
      unfold modify
      split
      · rename_i same
        rw [find_cons_neg (by rwa [keeps x same]), find_cons_neg (by rwa [same])]
      · by_cases at_other : key x = other
        · rw [find_cons_pos at_other, find_cons_pos at_other]
        · rw [find_cons_neg at_other, find_cons_neg at_other, ih]

end Modify

theorem Distinct.remove (distinct : Distinct key xs) : Distinct key (remove key k xs) :=
  List.Nodup.sublist (List.Sublist.map _ List.eraseP_sublist) distinct

theorem mem_remove (member : x ∈ remove key k xs) : x ∈ xs := List.mem_of_mem_eraseP member

theorem length_remove (found : find key k xs = some x) : (remove key k xs).length + 1 = xs.length := by
  have member := mem_of_find found
  have shorter : (remove key k xs).length = xs.length - 1 :=
    List.length_eraseP_of_mem member (decide_eq_true (find_key found))
  have positive := List.length_pos_of_mem member
  omega

theorem remove_cons_pos (same : key x = k) : remove key k (x :: xs) = xs :=
  List.eraseP_cons_of_pos (p := fun x => decide (key x = k)) (decide_eq_true same)

theorem remove_cons_neg (differs : key x ≠ k) : remove key k (x :: xs) = x :: remove key k xs :=
  List.eraseP_cons_of_neg (p := fun x => decide (key x = k)) (by rwa [decide_eq_true_eq])

theorem find_remove_ne (differs : k ≠ other) : find key other (remove key k xs) = find key other xs := by
  induction xs with
  | nil => rfl
  | cons x xs ih =>
      by_cases same : key x = k
      · rw [remove_cons_pos same, find_cons_neg (by rwa [same])]
      · rw [remove_cons_neg same]
        by_cases at_other : key x = other
        · rw [find_cons_pos at_other, find_cons_pos at_other]
        · rw [find_cons_neg at_other, find_cons_neg at_other, ih]

theorem Distinct.find_remove (distinct : Distinct key xs) : KeyList.find key k (KeyList.remove key k xs) = none := by
  induction xs with
  | nil => rfl
  | cons x xs ih =>
      obtain ⟨absent, later⟩ := List.nodup_cons.mp distinct
      by_cases same : key x = k
      · rw [remove_cons_pos same, find_eq_none, ← same]
        exact absent
      · rw [remove_cons_neg same, find_cons_neg same]
        exact ih later

section Middle

variable {before after : List α} (distinct : Distinct key (before ++ x :: after))

include distinct

omit [DecidableEq κ] in
theorem Distinct.absent_before : key x ∉ before.map key := by
  intro inside
  unfold Distinct at distinct
  rw [List.map_append, List.map_cons] at distinct
  exact (List.nodup_append.mp distinct).2.2 (key x) inside (key x) List.mem_cons_self rfl

theorem Distinct.find_middle : KeyList.find key (key x) (before ++ x :: after) = some x :=
  distinct.find (List.mem_append_right before List.mem_cons_self)

theorem Distinct.modify_middle : KeyList.modify key (key x) f (before ++ x :: after) = before ++ f x :: after := by
  have absent := distinct.absent_before
  clear distinct
  induction before with
  | nil => exact if_pos rfl
  | cons y before ih =>
      rw [List.map_cons, List.mem_cons, not_or] at absent
      rw [List.cons_append, KeyList.modify, if_neg (Ne.symm absent.1), ih absent.2, List.cons_append]

theorem Distinct.remove_middle : KeyList.remove key (key x) (before ++ x :: after) = before ++ after := by
  have absent := distinct.absent_before
  clear distinct
  induction before with
  | nil => exact remove_cons_pos rfl
  | cons y before ih =>
      rw [List.map_cons, List.mem_cons, not_or] at absent
      rw [List.cons_append, remove_cons_neg (Ne.symm absent.1), ih absent.2, List.cons_append]

theorem Distinct.next_middle : KeyList.next key (key x) (before ++ x :: after) = after.head?.map key := by
  have absent := distinct.absent_before
  clear distinct
  induction before with
  | nil => exact if_pos rfl
  | cons y before ih =>
      rw [List.map_cons, List.mem_cons, not_or] at absent
      rw [List.cons_append, KeyList.next, if_neg (Ne.symm absent.1), ih absent.2]

end Middle

end Lib.KeyList
