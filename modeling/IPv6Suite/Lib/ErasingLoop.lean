import Mathlib.Data.List.Chain

namespace Lib

namespace ErasingLoop

variable {α : Type} (p : α → Bool)

/-- A loop over a vector by index that erases the elements with `p` as it meets them. The index moves on after an
erasure too. -/
def eraseFrom : (rounds index : Nat) → List α → List α
  | 0, _, xs => xs
  | rounds + 1, index, xs =>
      match xs[index]? with
      | none => xs
      | some x => eraseFrom rounds (index + 1) (if p x then xs.eraseIdx index else xs)

/-- What such a loop leaves: the element after an erased one is passed over. -/
def sweep : List α → List α
  | [] => []
  | [x] => if p x then [] else [x]
  | x :: y :: rest => if p x then y :: sweep rest else x :: sweep (y :: rest)

theorem sweep_cons_of_neg {x : α} (other : p x = false) (rest : List α) : sweep p (x :: rest) = x :: sweep p rest := by
  cases rest with
  | nil => simp [sweep, other]
  | cons y rest => simp [sweep, other]

theorem eraseFrom_past {rounds index : Nat} {xs : List α} (past : xs.length ≤ index) :
    eraseFrom p rounds index xs = xs := by
  cases rounds with
  | zero => rfl
  | succ rounds => rw [eraseFrom, List.getElem?_eq_none past]

theorem eraseFrom_append {rounds : Nat} {todo : List α} (visited : List α) (enough : todo.length ≤ rounds) :
    eraseFrom p rounds visited.length (visited ++ todo) = visited ++ sweep p todo := by
  induction rounds generalizing visited todo with
  | zero =>
      rw [List.eq_nil_of_length_eq_zero (Nat.le_zero.mp enough)]
      rfl
  | succ rounds ih =>
      have next (x : α) {rest : List α} (fewer : rest.length ≤ rounds) :
          eraseFrom p rounds (visited.length + 1) (visited ++ x :: rest) = visited ++ x :: sweep p rest := by
        simpa using ih (visited ++ [x]) fewer
      cases todo with
      | nil => exact (eraseFrom_past p (by simp)).trans (by simp [sweep])
      | cons x rest =>
          rw [List.length_cons] at enough
          rw [eraseFrom, List.getElem?_append_right (Nat.le_refl _), Nat.sub_self, List.getElem?_cons_zero]
          dsimp only
          cases erased : p x with
          | false =>
              rw [if_neg (by simp), sweep_cons_of_neg p erased]
              exact next x (by omega)
          | true =>
              rw [if_pos rfl, List.eraseIdx_append_of_length_le (Nat.le_refl _), Nat.sub_self, List.eraseIdx_cons_zero]
              -- the neighbour moves to the index the loop leaves
              cases rest with
              | nil => rw [eraseFrom_past p (by simp)]; simp [sweep, erased]
              | cons y others =>
                  rw [List.length_cons] at enough
                  rw [next y (by omega)]
                  simp [sweep, erased]

/-- Elements without `p` all stay, in order. -/
theorem filter_sweep (xs : List α) : (sweep p xs).filter (fun x => !p x) = xs.filter fun x => !p x := by
  fun_induction sweep p xs with
  | case1 => rfl
  | case2 x erased => simp [erased]
  | case3 x kept => rfl
  | case4 x y rest erased ih => simp [List.filter_cons, erased, ih]
  | case5 x y rest kept ih =>
      rw [List.filter_cons, ih, List.filter_cons (x := x)]

/-- Nothing with `p` is left exactly when no two neighbours have it. -/
theorem forall_sweep_iff (xs : List α) :
    (∀ x ∈ sweep p xs, p x = false) ↔ xs.IsChain fun x y => ¬ (p x = true ∧ p y = true) := by
  fun_induction sweep p xs with
  | case1 => simp
  | case2 x erased => simp
  | case3 x kept => simpa using kept
  | case4 x y rest erased ih =>
      simp only [List.mem_cons, forall_eq_or_imp, ih, List.isChain_cons_cons, erased, true_and, Bool.not_eq_true]
      refine and_congr_right fun apart => ?_
      cases rest with
      | nil => simp
      | cons z others => simp [apart]
  | case5 x y rest kept ih =>
      simp only [Bool.not_eq_true] at kept
      simp [kept, ih]

end ErasingLoop

/-- An iterator of a `std::list`, with the elements before it and those from it on, none at `end()` -/
structure ListIter (α : Type) where
  before : List α
  rest : List α

namespace ListIter

variable {α : Type}

def list (it : ListIter α) : List α := it.before ++ it.rest

/-- What `erase(it)` returns -/
def erase (it : ListIter α) : ListIter α := ⟨it.before, it.rest.tail⟩

/-- `++it`. The list is a ring, so that behind `end()` comes its first element. -/
def next (it : ListIter α) : ListIter α :=
  match it.rest with
  | [] => ⟨[], it.before⟩
  | a :: rest => ⟨it.before ++ [a], rest⟩

end ListIter

/-- A loop over a list that visits an element, erases it, and goes on behind the one that `erase` returns -/
structure ListWalk (σ α : Type) where
  state : σ
  it : ListIter α
  visited : List α
  pastEnd : Bool

namespace ListWalk

variable {σ α ε : Type} {visit : σ → α → Except ε σ} {n : Nat} {w w' : ListWalk σ α}

def start (state : σ) (l : List α) : ListWalk σ α := ⟨state, ⟨[], l⟩, [], false⟩

def round (w : ListWalk σ α) (a : α) (state : σ) : ListWalk σ α :=
  ⟨state, w.it.erase.next, w.visited ++ [a], w.pastEnd || w.it.erase.rest.isEmpty⟩

/-- Each round erases an element, so that `n` of their number reach the end. -/
def walk (visit : σ → α → Except ε σ) : Nat → ListWalk σ α → Except ε (ListWalk σ α)
  | 0, w => .ok w
  | n + 1, w =>
      match w.it.rest with
      | [] => .ok w
      | a :: _ => do
          let state ← visit w.state a
          walk visit n (w.round a state)

theorem walk_cases (walks : walk visit (n + 1) w = .ok w') : w.it.rest = [] ∧ w' = w ∨
    ∃ a rest state, w.it.rest = a :: rest ∧ visit w.state a = .ok state ∧ walk visit n (w.round a state) = .ok w' := by
  unfold walk at walks
  split at walks
  · rename_i finished
    cases walks
    exact Or.inl ⟨finished, rfl⟩
  · rename_i a rest element
    cases visits : visit w.state a with
    | error fault =>
        rw [visits] at walks
        cases walks
    | ok state =>
        rw [visits] at walks
        exact Or.inr ⟨a, rest, state, element, visits, walks⟩

theorem round_last {a : α} {state : σ} (last : w.it.rest = [a]) :
    (w.round a state).it = ⟨[], w.it.before⟩ ∧ (w.round a state).pastEnd = true := by
  simp [round, ListIter.erase, ListIter.next, last]

theorem round_cons {a b : α} {rest : List α} {state : σ} (more : w.it.rest = a :: b :: rest) :
    (w.round a state).it = ⟨w.it.before ++ [b], rest⟩ := by
  simp [round, ListIter.erase, ListIter.next, more]

theorem walk_pastEnd (walks : walk visit n w = .ok w') (past : w.pastEnd = true) : w'.pastEnd = true := by
  induction n generalizing w with
  | zero =>
      cases walks
      exact past
  | succ n ih =>
      rcases walk_cases walks with ⟨-, rfl⟩ | ⟨a, rest, state, -, -, walks⟩
      · exact past
      · exact ih walks (by simp [round, past])

/-- An odd number of elements takes the iterator past the end; of an even number half are left. -/
theorem walk_parity (walks : walk visit n w = .ok w') (enough : w.it.rest.length ≤ n) :
    (w.it.rest.length % 2 = 1 → w'.pastEnd = true) ∧
      (w.it.rest.length % 2 = 0 → w'.it.list.length = w.it.before.length + w.it.rest.length / 2) := by
  induction n generalizing w with
  | zero =>
      cases walks
      simp [ListIter.list, Nat.le_zero.mp enough]
  | succ n ih =>
      rcases walk_cases walks with ⟨finished, rfl⟩ | ⟨a, rest, state, element, -, walks⟩
      · simp [ListIter.list, finished]
      · cases rest with
        | nil => simp [element, walk_pastEnd walks (round_last element).2]
        | cons b rest =>
            rw [element, List.length_cons, List.length_cons] at enough ⊢
            have further := ih walks (by rw [round_cons element]; dsimp only; omega)
            rw [round_cons element] at further
            simp only [List.length_append, List.length_singleton] at further
            exact ⟨fun odd => further.1 (by omega), fun even => (further.2 (by omega)).trans (by omega)⟩

end ListWalk

end Lib
