import Mathlib.Order.MinMax

namespace Lib

/-- The interval from `lo` up to but not including `hi`. -/
structure Extent (α : Type) where
  lo : α
  hi : α
deriving DecidableEq

namespace Extent

variable {α : Type} [LinearOrder α]

def Contains (i : Extent α) (a : α) : Prop := i.lo ≤ a ∧ a < i.hi

/-- The elements in one of the intervals. -/
def Covers (l : List (Extent α)) (a : α) : Prop := ∃ i ∈ l, i.Contains a

/-- Ordered intervals, none of them empty and no two of them touching. -/
structure Separated (l : List (Extent α)) : Prop where
  nonempty : ∀ i ∈ l, i.lo < i.hi
  apart : l.Pairwise fun i j => i.hi < j.lo

/-- `i` grows over the intervals that its end reaches. -/
def absorb (i : Extent α) : List (Extent α) → List (Extent α)
  | [] => [i]
  | j :: rest => if j.lo ≤ i.hi then absorb ⟨i.lo, max i.hi j.hi⟩ rest else i :: j :: rest

/-- An interval is put between the others or united with those that it touches. -/
def insert (seg : Extent α) : List (Extent α) → List (Extent α)
  | [] => [seg]
  | i :: rest =>
      if i.hi < seg.lo then i :: insert seg rest
      else if seg.hi < i.lo then seg :: i :: rest
      else if i.hi < seg.hi then absorb ⟨min seg.lo i.lo, seg.hi⟩ rest
      else ⟨min seg.lo i.lo, i.hi⟩ :: rest

/-- The first element from `a` on that is in no interval. -/
def firstGap (a : α) : List (Extent α) → α
  | [] => a
  | i :: rest => if i.hi < a then firstGap a rest else if i.lo ≤ a then i.hi else a

variable {l rest : List (Extent α)} {i j s : Extent α} {a b : α}

@[simp] theorem covers_nil : ¬ Covers ([] : List (Extent α)) a := by
  rintro ⟨i, inside, -⟩
  exact absurd inside List.not_mem_nil

@[simp] theorem covers_cons : Covers (i :: rest) a ↔ i.Contains a ∨ Covers rest a := by
  constructor
  · rintro ⟨j, inside, contains⟩
    rcases List.mem_cons.mp inside with rfl | later
    · exact Or.inl contains
    · exact Or.inr ⟨j, later, contains⟩
  · rintro (contains | ⟨j, later, contains⟩)
    · exact ⟨i, List.mem_cons_self, contains⟩
    · exact ⟨j, List.mem_cons_of_mem i later, contains⟩

theorem separated_nil : Separated ([] : List (Extent α)) :=
  ⟨fun _ inside => absurd inside List.not_mem_nil, List.Pairwise.nil⟩

theorem separated_cons : Separated (i :: rest) ↔ i.lo < i.hi ∧ (∀ j ∈ rest, i.hi < j.lo) ∧ Separated rest := by
  constructor
  · intro separated
    obtain ⟨first, others⟩ := List.pairwise_cons.mp separated.apart
    exact ⟨separated.nonempty i List.mem_cons_self, first,
      fun j later => separated.nonempty j (List.mem_cons_of_mem i later), others⟩
  · rintro ⟨nonempty, first, others⟩
    refine ⟨fun j inside => ?_, List.pairwise_cons.mpr ⟨first, others.apart⟩⟩
    rcases List.mem_cons.mp inside with rfl | later
    · exact nonempty
    · exact others.nonempty j later

/-- The lower end of an interval is an element. -/
theorem Separated.covers_lo (separated : Separated l) (inside : i ∈ l) : Covers l i.lo :=
  ⟨i, inside, le_refl _, separated.nonempty i inside⟩

theorem contains_union (touching : j.lo ≤ i.hi) (ordered : i.lo ≤ j.lo) :
    (Extent.mk i.lo (max i.hi j.hi)).Contains a ↔ i.Contains a ∨ j.Contains a := by
  unfold Contains
  dsimp only
  rw [lt_max_iff]
  constructor
  · rintro ⟨above, before | below⟩
    · exact Or.inl ⟨above, before⟩
    · by_cases inside : a < i.hi
      · exact Or.inl ⟨above, inside⟩
      · exact Or.inr ⟨le_trans touching (not_lt.mp inside), below⟩
  · rintro (⟨above, below⟩ | ⟨above, below⟩)
    · exact ⟨above, Or.inl below⟩
    · exact ⟨le_trans ordered above, Or.inr below⟩

theorem separated_absorb (nonempty : i.lo < i.hi) (separated : Separated rest)
    (ordered : ∀ j ∈ rest, i.lo ≤ j.lo) : Separated (absorb i rest) := by
  induction rest generalizing i with
  | nil => exact separated_cons.mpr ⟨nonempty, fun _ inside => absurd inside List.not_mem_nil, separated⟩
  | cons j rest ih =>
      have ⟨filled, beyond, others⟩ := separated_cons.mp separated
      unfold absorb
      split
      · exact ih (lt_max_of_lt_left nonempty) others fun k later =>
          ordered k (List.mem_cons_of_mem j later)
      · rename_i reaches
        rw [not_le] at reaches
        refine separated_cons.mpr ⟨nonempty, fun k inside => ?_, separated⟩
        rcases List.mem_cons.mp inside with rfl | later
        · exact reaches
        · exact lt_trans reaches (lt_trans filled (beyond k later))

theorem covers_absorb (ordered : ∀ j ∈ rest, i.lo ≤ j.lo) :
    Covers (absorb i rest) a ↔ i.Contains a ∨ Covers rest a := by
  induction rest generalizing i with
  | nil => exact covers_cons
  | cons j rest ih =>
      have later : ∀ k ∈ rest, i.lo ≤ k.lo := fun k later => ordered k (List.mem_cons_of_mem j later)
      unfold absorb
      split
      · rename_i touching
        rw [ih (i := ⟨i.lo, max i.hi j.hi⟩) later, covers_cons,
          contains_union touching (ordered j List.mem_cons_self), or_assoc]
      · exact covers_cons

theorem covers_insert (separated : Separated l) : Covers (insert s l) a ↔ s.Contains a ∨ Covers l a := by
  induction l with
  | nil => exact covers_cons
  | cons i rest ih =>
      have ⟨filled, beyond, others⟩ := separated_cons.mp separated
      have ordered (j : Extent α) (later : j ∈ rest) : min s.lo i.lo ≤ j.lo :=
        le_trans (min_le_right _ _) (le_of_lt (lt_trans filled (beyond j later)))
      unfold insert
      split
      · rw [covers_cons, ih others, covers_cons, or_left_comm]
      · rename_i reached
        rw [not_lt] at reached
        split
        · exact covers_cons
        · rename_i reaching
          rw [not_lt] at reaching
          have united (hi : α) (same : hi = max i.hi s.hi) :
              (Extent.mk (min s.lo i.lo) hi).Contains a ↔ s.Contains a ∨ i.Contains a := by
            unfold Contains
            dsimp only
            rw [same, min_le_iff, lt_max_iff]
            constructor
            · rintro ⟨above | above, below | below⟩
              · by_cases inside : a < s.hi
                · exact Or.inl ⟨above, inside⟩
                · exact Or.inr ⟨le_trans reaching (not_lt.mp inside), below⟩
              · exact Or.inl ⟨above, below⟩
              · exact Or.inr ⟨above, below⟩
              · by_cases inside : a < i.hi
                · exact Or.inr ⟨above, inside⟩
                · exact Or.inl ⟨le_trans reached (not_lt.mp inside), below⟩
            · rintro (⟨above, below⟩ | ⟨above, below⟩)
              · exact ⟨Or.inl above, Or.inr below⟩
              · exact ⟨Or.inr above, Or.inl below⟩
          split
          · rename_i longer
            rw [covers_absorb ordered, united _ (max_eq_right (le_of_lt longer)).symm, covers_cons,
              or_assoc]
          · rename_i shorter
            rw [covers_cons, united _ (max_eq_left (not_lt.mp shorter)).symm, covers_cons, or_assoc]

/-- What an insertion leaves begins where an interval began. -/
theorem lo_mem_insert (separated : Separated l) (below : b < s.lo) (others : ∀ k ∈ l, b < k.lo)
    (ordered : Separated (insert s l)) : ∀ k ∈ insert s l, b < k.lo := by
  intro k inside
  rcases (covers_insert separated).mp (ordered.covers_lo inside) with new | ⟨j, old, new⟩
  · exact lt_of_lt_of_le below new.1
  · exact lt_of_lt_of_le (others j old) new.1

/-- An insertion keeps the intervals apart. -/
theorem separated_insert (nonempty : s.lo < s.hi) (separated : Separated l) : Separated (insert s l) := by
  induction l with
  | nil => exact separated_cons.mpr ⟨nonempty, fun _ inside => absurd inside List.not_mem_nil, separated⟩
  | cons i rest ih =>
      have ⟨filled, beyond, others⟩ := separated_cons.mp separated
      have ordered (j : Extent α) (later : j ∈ rest) : min s.lo i.lo ≤ j.lo :=
        le_trans (min_le_right _ _) (le_of_lt (lt_trans filled (beyond j later)))
      unfold insert
      split
      · rename_i before
        exact separated_cons.mpr ⟨filled, lo_mem_insert others before beyond (ih others), ih others⟩
      · split
        · rename_i after
          refine separated_cons.mpr ⟨nonempty, fun k inside => ?_, separated⟩
          rcases List.mem_cons.mp inside with rfl | later
          · exact after
          · exact lt_trans after (lt_trans filled (beyond k later))
        · split
          · exact separated_absorb (min_lt_of_left_lt nonempty) others ordered
          · exact separated_cons.mpr ⟨min_lt_of_right_lt filled, beyond, others⟩

/-- The first interval is the run from the least element up to the first one missing. -/
theorem first_eq (separated : Separated (i :: rest)) (least : ∀ c, Covers (i :: rest) c → a ≤ c)
    (inside : ∀ c, a ≤ c → c < b → Covers (i :: rest) c) (run : a < b)
    (missing : ¬ Covers (i :: rest) b) : i = ⟨a, b⟩ := by
  have ⟨filled, beyond, others⟩ := separated_cons.mp separated
  have first {c : α} (covered : Covers (i :: rest) c) (early : c ≤ i.hi) : i.Contains c := by
    rcases covers_cons.mp covered with contains | ⟨j, later, contains⟩
    · exact contains
    · exact absurd (lt_of_lt_of_le (beyond j later) contains.1) (not_lt_of_ge early)
  have above : a ≤ i.lo := least i.lo (separated.covers_lo List.mem_cons_self)
  have lower : i.lo = a :=
    le_antisymm (first (inside a (le_refl a) run) (le_trans above (le_of_lt filled))).1 above
  have upper : i.hi = b := by
    rcases lt_trichotomy i.hi b with early | same | late
    · have covered := inside i.hi (le_trans above (le_of_lt filled)) early
      exact absurd (first covered (le_refl _)).2 (lt_irrefl _)
    · exact same
    · refine absurd (covers_cons.mpr (Or.inl ⟨?_, late⟩)) missing
      exact lower ▸ le_of_lt run
  rw [← lower, ← upper]

theorem le_firstGap (a : α) (l : List (Extent α)) : a ≤ firstGap a l := by
  induction l with
  | nil => exact le_refl a
  | cons i rest ih =>
      unfold firstGap
      split
      · exact ih
      · rename_i reached
        split
        · exact not_lt.mp reached
        · exact le_refl a

theorem covers_of_lt_firstGap (separated : Separated l) (above : a ≤ b) (before : b < firstGap a l) :
    Covers l b := by
  induction l with
  | nil => exact absurd before (not_lt_of_ge above)
  | cons i rest ih =>
      unfold firstGap at before
      split at before
      · exact covers_cons.mpr (Or.inr (ih (separated_cons.mp separated).2.2 before))
      · split at before
        · rename_i begun
          exact covers_cons.mpr (Or.inl ⟨le_trans begun above, before⟩)
        · exact absurd before (not_lt_of_ge above)

theorem not_covers_firstGap (separated : Separated l) : ¬ Covers l (firstGap a l) := by
  induction l with
  | nil => exact covers_nil
  | cons i rest ih =>
      have ⟨filled, beyond, others⟩ := separated_cons.mp separated
      have early {c : α} (bound : c ≤ i.hi) (outside : ¬ i.Contains c) : ¬ Covers (i :: rest) c := by
        rw [covers_cons]
        rintro (contains | ⟨j, later, contains⟩)
        · exact outside contains
        · exact absurd (lt_of_lt_of_le (beyond j later) contains.1) (not_lt_of_ge bound)
      unfold firstGap
      split
      · rename_i passed
        rw [covers_cons]
        rintro (contains | covered)
        · exact absurd contains.2 (not_lt_of_ge (le_trans (le_of_lt passed) (le_firstGap a rest)))
        · exact ih others covered
      · rename_i reached
        split
        · exact early (le_refl _) fun contains => lt_irrefl _ contains.2
        · rename_i ahead
          exact early (not_lt.mp reached) fun contains => ahead contains.1

/-- Another interval moves the first gap only further. -/
theorem firstGap_insert_le (nonempty : s.lo < s.hi) (separated : Separated l) :
    firstGap a l ≤ firstGap a (insert s l) := by
  by_contra less
  rw [not_le] at less
  have covered := covers_of_lt_firstGap separated (le_firstGap a (insert s l)) less
  exact not_covers_firstGap (separated_insert nonempty separated)
    ((covers_insert separated).mpr (Or.inr covered))

end Extent

end Lib
