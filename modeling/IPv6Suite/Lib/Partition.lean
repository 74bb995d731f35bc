import IPv6Suite.Lib.Extents

namespace Lib

namespace Extent

instance (i : Extent Nat) (a : Nat) : Decidable (i.Contains a) :=
  inferInstanceAs (Decidable (_ ∧ _))

/-- How many of the intervals an element is in. -/
def times (l : List (Extent Nat)) (a : Nat) : Nat := l.countP fun i => decide (i.Contains a)

/-- Each element from `lo` up to `hi` is in one of the intervals, and no other element is in any. -/
structure Partitions (l : List (Extent Nat)) (lo hi : Nat) : Prop where
  nonempty : ∀ i ∈ l, i.lo < i.hi
  once : ∀ a, times l a = if lo ≤ a ∧ a < hi then 1 else 0

variable {l l' rest merged stored missing : List (Extent Nat)} {i j : Extent Nat}
variable {a b e lo mid hi : Nat}

@[simp] theorem times_nil (a : Nat) : times [] a = 0 := rfl

theorem times_cons (i : Extent Nat) (rest : List (Extent Nat)) (a : Nat) :
    times (i :: rest) a = times rest a + if i.Contains a then 1 else 0 := by
  unfold times
  rw [List.countP_cons]
  simp only [decide_eq_true_eq]

theorem times_append (l l' : List (Extent Nat)) (a : Nat) :
    times (l ++ l') a = times l a + times l' a := List.countP_append

theorem times_perm (perm : l.Perm l') (a : Nat) : times l a = times l' a := perm.countP_eq _

theorem times_pos (inside : i ∈ l) (contains : i.Contains a) : 0 < times l a :=
  List.countP_pos_iff.mpr ⟨i, inside, decide_eq_true contains⟩

theorem exists_of_times_pos (pos : 0 < times l a) : ∃ i ∈ l, i.Contains a := by
  obtain ⟨i, inside, contains⟩ := List.countP_pos_iff.mp pos
  exact ⟨i, inside, of_decide_eq_true contains⟩

theorem Partitions.perm (parts : Partitions l lo hi) (perm : l.Perm l') : Partitions l' lo hi where
  nonempty := fun i inside => parts.nonempty i (perm.mem_iff.mpr inside)
  once := fun a => (times_perm perm a).symm.trans (parts.once a)

theorem Partitions.singleton (lt : lo < hi) : Partitions [⟨lo, hi⟩] lo hi where
  nonempty := fun i inside => by
    rw [List.mem_singleton.mp inside]
    exact lt
  once := fun a => by
    rw [times_cons, times_nil, Nat.zero_add]
    rfl

theorem Partitions.append (first : Partitions l lo mid) (next : Partitions l' mid hi)
    (below : lo ≤ mid) (above : mid ≤ hi) : Partitions (l ++ l') lo hi where
  nonempty := fun i inside => (List.mem_append.mp inside).elim (first.nonempty i) (next.nonempty i)
  once := fun a => by
    rw [times_append, first.once, next.once]
    split <;> split <;> split <;> omega

theorem Partitions.nil (lo : Nat) : Partitions [] lo lo where
  nonempty := nofun
  once := fun a => by
    rw [times_nil, if_neg]
    omega

/-- Intervals of the same size, one after the other. -/
theorem partitions_chunks {size : Nat} (some : 0 < size) (count : Nat) :
    Partitions ((List.range count).map fun k => ⟨k * size, k * size + size⟩) 0 (count * size) := by
  induction count with
  | zero =>
      rw [Nat.zero_mul]
      exact .nil 0
  | succ count ih =>
      rw [List.range_succ, List.map_append, Nat.succ_mul]
      exact ih.append (.singleton (by omega)) (Nat.zero_le _) (by omega)

section Refinement

variable {β : Type} {f : β → List (Extent Nat)} {g : β → Extent Nat} {l : List β}

/-- An interval may be replaced by others that it is divided into. -/
theorem Partitions.refine (parts : Partitions (l.map g) lo hi)
    (divides : ∀ x ∈ l, Partitions (f x) (g x).lo (g x).hi) : Partitions (l.flatMap f) lo hi where
  nonempty := by
    intro i inside
    obtain ⟨x, mem, inside⟩ := List.mem_flatMap.mp inside
    exact (divides x mem).nonempty i inside
  once := by
    intro a
    rw [← parts.once a]
    clear parts
    induction l with
    | nil => rfl
    | cons x rest ih =>
        rw [List.flatMap_cons, times_append, List.map_cons, times_cons,
          ih fun y mem => divides y (List.mem_cons_of_mem x mem),
          (divides x List.mem_cons_self).once, Nat.add_comm]
        rfl

/-- Where replacements cover what they replace, elements are covered as often as before. -/
theorem times_flatMap_le (covers : ∀ x ∈ l, (g x).Contains a → 0 < times (f x) a) :
    times (l.map g) a ≤ times (l.flatMap f) a := by
  induction l with
  | nil => exact Nat.le_refl _
  | cons x rest ih =>
      have le := ih fun y mem => covers y (List.mem_cons_of_mem x mem)
      have first := covers x List.mem_cons_self
      rw [List.flatMap_cons, times_append, List.map_cons, times_cons]
      split
      · have pos := first (by assumption)
        omega
      · omega

theorem times_flatMap_lt {x : β} (covers : ∀ x ∈ l, (g x).Contains a → 0 < times (f x) a)
    (mem : x ∈ l) (outside : ¬ (g x).Contains a) (again : 0 < times (f x) a) :
    times (l.map g) a < times (l.flatMap f) a := by
  obtain ⟨front, back, rfl⟩ := List.append_of_mem mem
  have before : times (front.map g) a ≤ times (front.flatMap f) a :=
    times_flatMap_le fun y inside => covers y (List.mem_append_left _ inside)
  have after : times (back.map g) a ≤ times (back.flatMap f) a :=
    times_flatMap_le fun y inside =>
      covers y (List.mem_append_right _ (List.mem_cons_of_mem x inside))
  rw [List.map_append, List.map_cons, times_append, times_cons, if_neg outside, List.flatMap_append,
    List.flatMap_cons, times_append, times_append]
  omega

end Refinement

/-- No element is in two of the intervals. -/
theorem Partitions.le_one (parts : Partitions l lo hi) (a : Nat) : times l a ≤ 1 := by
  rw [parts.once]
  split <;> omega

/-- An element is in one interval only. -/
theorem Partitions.unique (parts : Partitions l lo hi) (inside : i ∈ l) (inside' : j ∈ l)
    (contains : i.Contains a) (contains' : j.Contains a) : i = j := by
  by_contra differ
  obtain ⟨front, back, rfl⟩ := List.append_of_mem inside
  have most := parts.le_one a
  rw [times_append, times_cons, if_pos contains] at most
  rcases List.mem_append.mp inside' with mem | mem
  · have pos := times_pos mem contains'
    omega
  · rcases List.mem_cons.mp mem with rfl | mem
    · exact differ rfl
    · have pos := times_pos mem contains'
      omega

theorem Partitions.bounds (parts : Partitions l lo hi) (inside : i ∈ l) : lo ≤ i.lo ∧ i.hi ≤ hi := by
  have filled := parts.nonempty i inside
  have covered {a : Nat} (contains : i.Contains a) : lo ≤ a ∧ a < hi := by
    have pos := times_pos inside contains
    rw [parts.once] at pos
    split at pos
    · assumption
    · omega
  have lower := (covered ⟨Nat.le_refl i.lo, filled⟩).1
  have upper := (covered (a := i.hi - 1) ⟨by omega, by omega⟩).2
  omega

end Extent

end Lib
