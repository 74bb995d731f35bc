import Mathlib.Data.List.Count

namespace Lib

/-- A copy of a message. Every copy but the first that is sent is marked as repeated. -/
structure Copy (ι ν : Type) where
  id : ι
  number : ν
  repeated : Bool

/-- A receiver that remembers only the number of the last message it has passed on -/
structure DuplicateFilter (ι ν : Type) where
  stored : ν
  arrived : List ι
  passed : List ι

namespace DuplicateFilter

variable {ι ν : Type} [DecidableEq ν]

/-- What the receiver takes for a duplicate -/
def Duplicate (f : DuplicateFilter ι ν) (c : Copy ι ν) : Prop := c.repeated = true ∧ f.stored = c.number

instance (f : DuplicateFilter ι ν) (c : Copy ι ν) : Decidable (f.Duplicate c) :=
  inferInstanceAs (Decidable (_ ∧ _))

def receive (f : DuplicateFilter ι ν) (c : Copy ι ν) : DuplicateFilter ι ν :=
  if f.Duplicate c then { f with arrived := c.id :: f.arrived }
  else ⟨c.number, c.id :: f.arrived, c.id :: f.passed⟩

variable {f : DuplicateFilter ι ν} {c : Copy ι ν}

theorem receive_duplicate (duplicate : f.Duplicate c) :
    f.receive c = { f with arrived := c.id :: f.arrived } := if_pos duplicate

theorem receive_fresh (fresh : ¬ f.Duplicate c) :
    f.receive c = ⟨c.number, c.id :: f.arrived, c.id :: f.passed⟩ := if_neg fresh

variable [DecidableEq ι]

/-- Every message that has arrived has been passed on once. -/
def Once (f : DuplicateFilter ι ν) : Prop := ∀ i, f.passed.count i = if i ∈ f.arrived then 1 else 0

/-- The receiver takes for duplicates what it has seen before. -/
def Judged (f : DuplicateFilter ι ν) (c : Copy ι ν) : Prop := f.Duplicate c ↔ c.id ∈ f.arrived

instance (f : DuplicateFilter ι ν) (c : Copy ι ν) : Decidable (f.Judged c) :=
  inferInstanceAs (Decidable (_ ↔ _))

theorem once_receive (once : f.Once) : (f.receive c).Once ↔ f.Judged c := by
  by_cases duplicate : f.Duplicate c
  · rw [receive_duplicate duplicate, Judged, iff_true_left duplicate]
    constructor
    · intro still
      by_contra absent
      have own := still c.id
      have before := once c.id
      simp only [List.mem_cons, true_or, if_true] at own
      rw [if_neg absent] at before
      omega
    · intro seen i
      have before := once i
      by_cases same : i = c.id
      · subst same
        simpa [seen] using before
      · simpa [same] using before
  · rw [receive_fresh duplicate, Judged, iff_false_left duplicate]
    constructor
    · intro still seen
      have own := still c.id
      have before := once c.id
      simp only [List.count_cons_self, List.mem_cons, true_or, if_true] at own
      rw [if_pos seen] at before
      omega
    · intro absent i
      have before := once i
      by_cases same : i = c.id
      · subst same
        simpa [absent] using before
      · simpa [same, List.count_cons_of_ne (Ne.symm same)] using before

end DuplicateFilter

end Lib
