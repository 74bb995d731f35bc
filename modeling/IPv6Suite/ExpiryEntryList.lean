import IPv6Suite.Lib.StdHeap
import IPv6Suite.NDEntry
import Mathlib.Algebra.Order.Field.Rat

namespace IPv6Suite

open Lib

/-- `ExpiryEntryListSignal`: a heap of entries and one timer; `sig` is the arrival
time of the scheduled message. -/
structure ExpiryEntryList (α : Type) where
  entries : List α
  sig : Option SimTime
  relative : Bool
deriving DecidableEq

namespace ExpiryEntryList

variable {α : Type}

def create (relative : Bool) : ExpiryEntryList α := ⟨[], none, relative⟩

variable (heap : StdHeap SimTime) (expiryTime : α → SimTime) (now : SimTime)

/-- `reschedule()`, where `front` is what the container's `front()` reads. -/
def reschedule (front : α) (list : ExpiryEntryList α) : ExpiryEntryList α :=
  { list with
    sig := some (if list.relative then now + expiryTime front else expiryTime front) }

/-- `sortAndReset()`. On a container that was just emptied `front()` reads the slot
that `vacated` still occupies. -/
def sortAndReset (vacated : α) (list : ExpiryEntryList α) : ExpiryEntryList α :=
  let entries := heap.makeHeap expiryTime list.entries
  reschedule expiryTime now (entries.headD vacated) { list with entries }

/-- The entry that `removeExpiredEntry` hands to the callback: `pop_heap` moves the
front of the heap to the back. -/
def expired (list : ExpiryEntryList α) : Option α :=
  if list.entries.isEmpty then none else (heap.popHeap expiryTime list.entries).getLast?

/-- The message has arrived and the callback has returned: `pop_back` and restart. -/
def popExpired (list : ExpiryEntryList α) : ExpiryEntryList α :=
  if list.entries.isEmpty then { list with sig := none }
  else match (heap.popHeap expiryTime list.entries).dropLast with
    | [] => { list with entries := [], sig := none }
    | front :: rest => reschedule expiryTime now front { list with entries := front :: rest }

/-- How every restart leaves a relative list that is not empty: the front's whole
lifetime lies ahead of the timer. -/
structure Restarted (list : ExpiryEntryList α) : Prop where
  relative : list.relative = true
  isHeap : IsHeap expiryTime list.entries
  timer : ∀ front rest, list.entries = front :: rest →
    list.sig = some (now + expiryTime front)

section

variable {heap expiryTime now} {list : ExpiryEntryList α}

theorem sortAndReset_restarted (vacated : α) (relative : list.relative = true) :
    Restarted expiryTime now (sortAndReset heap expiryTime now vacated list) where
  relative := relative
  isHeap := heap.makeHeap_isHeap expiryTime list.entries
  timer front rest split := by
    change heap.makeHeap expiryTime list.entries = front :: rest at split
    simp only [sortAndReset, reschedule, split, List.headD_cons, relative, ↓reduceIte]

theorem sortAndReset_perm (vacated : α) (list : ExpiryEntryList α) :
    (sortAndReset heap expiryTime now vacated list).entries.Perm list.entries :=
  heap.makeHeap_perm expiryTime list.entries

variable (heap now) in
theorem popExpired_cons {front : α} {rest : List α} (split : list.entries = front :: rest)
    (isHeap : IsHeap expiryTime list.entries) (relative : list.relative = true) :
    expired heap expiryTime list = some front ∧ (popExpired heap expiryTime now list).entries.Perm rest ∧
      Restarted expiryTime now (popExpired heap expiryTime now list) := by
  rw [split] at isHeap
  obtain ⟨rest', popped, perm, isHeap'⟩ := heap.popHeap_cons expiryTime front rest isHeap
  unfold expired popExpired
  simp only [split, List.isEmpty_cons, Bool.false_eq_true, ↓reduceIte, popped,
    List.dropLast_concat, List.getLast?_concat, true_and]
  cases rest' with
  | nil => exact ⟨perm, relative, isHeap', fun _ _ none => by cases none⟩
  | cons first others =>
      refine ⟨perm, relative, isHeap', fun head tail same => ?_⟩
      cases same
      simp only [reschedule, relative, ↓reduceIte]

variable (heap expiryTime now) in
theorem popExpired_nil (empty : list.entries = []) : expired heap expiryTime list = none ∧
      popExpired heap expiryTime now list = { list with sig := none } := by
  simp [expired, popExpired, empty]

end

variable [DecidableEq α]

def remove (p : α) (list : ExpiryEntryList α) : ExpiryEntryList α :=
  if p ∈ list.entries then
    sortAndReset heap expiryTime now p { list with entries := list.entries.erase p }
  else list

def addOrUpdate (p : α) (list : ExpiryEntryList α) : ExpiryEntryList α :=
  sortAndReset heap expiryTime now p { list with entries := list.entries.filter (· ≠ p) ++ [p] }

variable {heap expiryTime now} {list : ExpiryEntryList α} {p q : α}

variable (heap expiryTime now) in
theorem addOrUpdate_restarted (p : α) (relative : list.relative = true) :
    Restarted expiryTime now (addOrUpdate heap expiryTime now p list) :=
  sortAndReset_restarted p relative

variable (heap expiryTime now) in
theorem remove_restarted (inside : p ∈ list.entries) (relative : list.relative = true) :
    Restarted expiryTime now (remove heap expiryTime now p list) := by
  unfold remove
  rw [if_pos inside]
  exact sortAndReset_restarted p relative

theorem remove_of_not_mem (absent : p ∉ list.entries) :
    remove heap expiryTime now p list = list := if_neg absent

theorem remove_perm : (remove heap expiryTime now p list).entries.Perm (list.entries.erase p) := by
  unfold remove
  split
  · exact sortAndReset_perm _ _
  · rename_i absent
    rw [List.erase_of_not_mem absent]

theorem addOrUpdate_perm :
    (addOrUpdate heap expiryTime now p list).entries.Perm (list.entries.filter (· ≠ p) ++ [p]) :=
  sortAndReset_perm _ _

theorem mem_addOrUpdate : q ∈ (addOrUpdate heap expiryTime now p list).entries ↔ q = p ∨ q ∈ list.entries := by
  rw [addOrUpdate_perm.mem_iff, List.mem_append, List.mem_filter, List.mem_singleton,
    decide_eq_true_eq]
  tauto

theorem nodup_addOrUpdate (nodup : list.entries.Nodup) :
    (addOrUpdate heap expiryTime now p list).entries.Nodup := by
  rw [addOrUpdate_perm.nodup_iff, List.nodup_append]
  refine ⟨nodup.filter _, List.nodup_singleton p, ?_⟩
  intro a inFiltered b same
  rw [List.mem_filter, decide_eq_true_eq] at inFiltered
  rw [List.mem_singleton.mp same]
  exact inFiltered.2

theorem mem_remove (nodup : list.entries.Nodup) :
    q ∈ (remove heap expiryTime now p list).entries ↔ q ≠ p ∧ q ∈ list.entries := by
  rw [remove_perm.mem_iff, nodup.mem_erase_iff]

theorem nodup_remove (nodup : list.entries.Nodup) : (remove heap expiryTime now p list).entries.Nodup :=
  remove_perm.nodup_iff.mpr (nodup.erase p)

end ExpiryEntryList

end IPv6Suite
