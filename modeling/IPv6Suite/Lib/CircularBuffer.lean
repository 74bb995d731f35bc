import Mathlib.Data.List.Sort

namespace Lib

variable {α : Type}

/-- A buffer of fixed capacity, the oldest element first. -/
structure CircularBuffer (α : Type) where
  capacity : Nat
  elements : List α
  fits : elements.length ≤ capacity

namespace CircularBuffer

def empty (capacity : Nat) : CircularBuffer α := ⟨capacity, [], Nat.zero_le _⟩

def full (b : CircularBuffer α) : Bool := b.elements.length == b.capacity

def push_back (b : CircularBuffer α) (a : α) : CircularBuffer α :=
  if room : b.elements.length < b.capacity then
    ⟨b.capacity, b.elements ++ [a], by rw [List.length_append]; exact room⟩
  else
    -- the oldest one makes room
    ⟨b.capacity, (b.elements ++ [a]).tail, by simpa using b.fits⟩

def pop_front (b : CircularBuffer α) : CircularBuffer α :=
  ⟨b.capacity, b.elements.tail, Nat.le_trans (by simp) b.fits⟩

def sort (r : α → α → Prop) [DecidableRel r] (b : CircularBuffer α) : CircularBuffer α :=
  ⟨b.capacity, b.elements.insertionSort r, by simpa using b.fits⟩

variable {b : CircularBuffer α} {a : α} {r : α → α → Prop} [DecidableRel r]

@[simp] theorem elements_pop_front : b.pop_front.elements = b.elements.tail := rfl

@[simp] theorem elements_sort : (b.sort r).elements = b.elements.insertionSort r := rfl

theorem full_iff : b.full = true ↔ b.elements.length = b.capacity := beq_iff_eq

theorem elements_push_back_of_room (room : b.full = false) : (b.push_back a).elements = b.elements ++ [a] := by
  have less : b.elements.length < b.capacity := Nat.lt_of_le_of_ne b.fits (beq_eq_false_iff_ne.mp room)
  unfold push_back
  rw [dif_pos less]

theorem elements_push_back_of_full (full : b.full = true) :
    (b.push_back a).elements = (b.elements ++ [a]).tail := by
  unfold push_back
  rw [dif_neg (by rw [full_iff.mp full]; exact Nat.lt_irrefl _)]

theorem mem_push_back {x : α} (inside : x ∈ (b.push_back a).elements) : x ∈ b.elements ∨ x = a := by
  cases full : b.full with
  | false =>
      rw [elements_push_back_of_room full] at inside
      simpa using inside
  | true =>
      rw [elements_push_back_of_full full] at inside
      simpa using List.mem_of_mem_tail inside

end CircularBuffer

end Lib
