import Mathlib.Data.List.Basic

namespace Lib

/-- Queues of a number of classes. The first element of a queue is its oldest, and the class 0 goes first. -/
abbrev PriorityQueues (α : Type) := List (List α)

namespace PriorityQueues

variable {α : Type} {qs rest : PriorityQueues α} {a : α} {c : Nat}

/-- What waits in a class -/
def waiting (qs : PriorityQueues α) (c : Nat) : List α := qs.getD c []

def insert (qs : PriorityQueues α) (c : Nat) (a : α) : PriorityQueues α := qs.modify c (· ++ [a])

/-- The oldest element of the first queue that is not empty -/
def pop : PriorityQueues α → Option (α × PriorityQueues α)
  | [] => none
  | [] :: qs => (pop qs).map fun popped => (popped.1, [] :: popped.2)
  | (a :: q) :: qs => some (a, q :: qs)

theorem waiting_insert (within : c < qs.length) (a : α) (j : Nat) :
    (qs.insert c a).waiting j = if j = c then qs.waiting j ++ [a] else qs.waiting j := by
  unfold waiting insert
  rw [List.getD_eq_getElem?_getD, List.getD_eq_getElem?_getD, List.getElem?_modify]
  by_cases own : j = c
  · subst own
    rw [List.getElem?_eq_getElem within]
    simp only [Option.map_eq_map, Option.map_some, if_pos, Option.getD_some]
  · rw [if_neg own]
    have other : ¬ c = j := fun same => own same.symm
    cases qs[j]? with
    | none => rfl
    | some q => simp only [Option.map_eq_map, Option.map_some, if_neg other]

theorem pop_eq_none : pop qs = none ↔ ∀ q ∈ qs, q = [] := by
  induction qs with
  | nil => exact iff_of_true rfl nofun
  | cons q qs ih =>
      cases q with
      | nil =>
          change ((pop qs).map _ = none) ↔ _
          rw [Option.map_eq_none_iff, ih, List.forall_mem_cons]
          exact (and_iff_right rfl).symm
      | cons a q => exact iff_of_false nofun fun empty => nomatch empty _ (List.mem_cons_self ..)

theorem waiting_of_empty (empty : ∀ q ∈ qs, q = []) (c : Nat) : qs.waiting c = [] := by
  unfold waiting
  rw [List.getD_eq_getElem?_getD]
  cases located : qs[c]? with
  | none => rfl
  | some q => exact empty q (List.mem_of_getElem? located)

/-- One class has lost its oldest element, and no class before it waits. -/
theorem waiting_pop (popped : pop qs = some (a, rest)) : ∃ c, c < qs.length ∧ qs.waiting c = a :: rest.waiting c ∧
    (∀ j, j ≠ c → rest.waiting j = qs.waiting j) ∧ (∀ j, j < c → qs.waiting j = []) ∧ rest.length = qs.length := by
  induction qs generalizing rest with
  | nil => cases popped
  | cons q qs ih =>
      cases q with
      | nil =>
          obtain ⟨⟨b, qs'⟩, inner, same⟩ := Option.map_eq_some_iff.mp popped
          cases same
          obtain ⟨c, within, own, others, before, length⟩ := ih inner
          refine ⟨c + 1, Nat.succ_lt_succ within, own, fun j ne => ?_, fun j lt => ?_, congrArg (· + 1) length⟩
          · cases j with
            | zero => rfl
            | succ j => exact others j fun same => ne (congrArg (· + 1) same)
          · cases j with
            | zero => rfl
            | succ j => exact before j (Nat.lt_of_succ_lt_succ lt)
      | cons b q =>
          cases popped
          refine ⟨0, Nat.zero_lt_succ _, rfl, fun j ne => ?_, nofun, rfl⟩
          cases j with
          | zero => exact (ne rfl).elim
          | succ j => rfl

/-- Each element waits in its class. -/
def Sorted (qs : PriorityQueues α) (classOf : α → Nat) : Prop := ∀ c, ∀ a ∈ qs.waiting c, classOf a = c

/-- What has been put in and what has been taken out: class by class, in order, and what was not taken out yet
still waits. -/
def Accounts (qs : PriorityQueues α) (classOf : α → Nat) (put taken : List α) : Prop :=
  ∀ c, put.filter (classOf · = c) = taken.filter (classOf · = c) ++ qs.waiting c

variable {classOf : α → Nat} {put taken : List α}

theorem filter_own (classOf : α → Nat) (a : α) : [a].filter (classOf · = classOf a) = [a] :=
  List.filter_cons_of_pos (p := fun b => decide (classOf b = classOf a)) (decide_eq_true rfl)

theorem filter_other (other : c ≠ classOf a) : [a].filter (classOf · = c) = [] :=
  List.filter_cons_of_neg (p := fun b => decide (classOf b = c)) (mt of_decide_eq_true other.symm)

theorem Accounts.insert (accounts : qs.Accounts classOf put taken) (within : classOf a < qs.length) :
    (qs.insert (classOf a) a).Accounts classOf (put ++ [a]) taken := by
  intro c
  rw [List.filter_append, accounts c, waiting_insert within, List.append_assoc]
  by_cases own : c = classOf a
  · subst own
    rw [if_pos rfl, filter_own]
  · rw [if_neg own, filter_other own, List.append_nil]

theorem Accounts.pass (accounts : qs.Accounts classOf put taken) (empty : ∀ q ∈ qs, q = []) (a : α) :
    qs.Accounts classOf (put ++ [a]) (taken ++ [a]) := by
  intro c
  have none := waiting_of_empty empty c
  rw [List.filter_append, accounts c, none, List.filter_append, List.append_nil, List.append_nil]

theorem Accounts.pop (accounts : qs.Accounts classOf put taken) (sorted : qs.Sorted classOf)
    (popped : pop qs = some (a, rest)) : rest.Accounts classOf put (taken ++ [a]) ∧ rest.Sorted classOf ∧
      ∀ j, j < classOf a → qs.waiting j = [] := by
  obtain ⟨c, within, own, others, before, _⟩ := waiting_pop popped
  have class_eq : classOf a = c := sorted c a (own ▸ List.mem_cons_self ..)
  subst class_eq
  refine ⟨fun j => ?_, fun j b waits => ?_, before⟩
  · rw [accounts j, List.filter_append]
    by_cases same : j = classOf a
    · subst same
      rw [own, filter_own, List.append_assoc]
      rfl
    · rw [filter_other same, List.append_nil, others j same]
  · by_cases same : j = classOf a
    · subst same
      exact sorted _ b (own ▸ List.mem_cons_of_mem _ waits)
    · exact sorted j b (others j same ▸ waits)

theorem Sorted.insert (sorted : qs.Sorted classOf) (within : classOf a < qs.length) :
    (qs.insert (classOf a) a).Sorted classOf := by
  intro c b waits
  rw [waiting_insert within] at waits
  split at waits
  · obtain old | new := List.mem_append.mp waits
    · exact sorted c b old
    · cases List.mem_singleton.mp new
      exact Eq.symm ‹_›
  · exact sorted c b waits

end PriorityQueues

end Lib
