import Mathlib.Data.Finset.Filter
import Mathlib.Data.Finset.Card

namespace Lib

/-- The sources of groups that hosts listen to, with the queries for sources whose last host has left -/
structure Membership (γ σ η : Type) where
  groups : Finset γ
  sources : γ → Finset σ
  hosts : γ → σ → Finset η
  queries : List (γ × Finset σ)

namespace Membership

variable {γ σ η : Type}

def empty : Membership γ σ η := ⟨∅, fun _ => ∅, fun _ _ => ∅, []⟩

variable [DecidableEq γ] [DecidableEq σ] [DecidableEq η]

def openGroup (m : Membership γ σ η) (g : γ) : Membership γ σ η := { m with groups := insert g m.groups }

def join (h : η) (g : γ) (m : Membership γ σ η) (s : σ) : Membership γ σ η :=
  { m with
    sources := fun g' => if g = g' then insert s (m.sources g') else m.sources g'
    hosts := fun g' s' => if g = g' ∧ s = s' then insert h (m.hosts g' s') else m.hosts g' s' }

def leave (h : η) (g : γ) (m : Membership γ σ η) (s : σ) : Membership γ σ η :=
  { m with hosts := fun g' s' => if g = g' ∧ s = s' then (m.hosts g' s').erase h else m.hosts g' s' }

/-- The sources of a group that no host listens to any more -/
def silent (m : Membership γ σ η) (g : γ) : Finset σ := {s ∈ m.sources g | m.hosts g s = ∅}

/-- A host listens to sources. -/
def allow (m : Membership γ σ η) (h : η) (g : γ) (ss : List σ) : Membership γ σ η :=
  ss.foldl (join h g) (m.openGroup g)

/-- A host listens no longer to sources. The last host of a source leaves a query for all sources of
the group that no host listens to. -/
def block (m : Membership γ σ η) (h : η) (g : γ) (ss : List σ) : Membership γ σ η :=
  let left := ss.foldl (leave h g) m
  if ∃ s ∈ ss, m.hosts g s ≠ ∅ ∧ left.hosts g s = ∅ then
    { left with queries := left.queries ++ [(g, left.silent g)] }
  else left

variable {m : Membership γ σ η} {h : η} {g g' : γ} {s s' : σ} {ss : List σ}

omit [DecidableEq γ] [DecidableEq σ] in
theorem mem_silent : s ∈ m.silent g ↔ s ∈ m.sources g ∧ m.hosts g s = ∅ := Finset.mem_filter

theorem sources_join : (m.join h g s).sources g' = if g = g' then insert s (m.sources g') else m.sources g' := rfl

theorem hosts_join : (m.join h g s).hosts g' s' =
    if g = g' ∧ s = s' then insert h (m.hosts g' s') else m.hosts g' s' := rfl

theorem hosts_leave : (m.leave h g s).hosts g' s' =
    if g = g' ∧ s = s' then (m.hosts g' s').erase h else m.hosts g' s' := rfl

theorem mem_sources_join : s' ∈ (m.join h g s).sources g' ↔ (g = g' ∧ s = s') ∨ s' ∈ m.sources g' := by
  rw [sources_join]
  split
  · rename_i same
    rw [Finset.mem_insert, and_iff_right same]
    exact or_congr_left eq_comm
  · rename_i differs
    rw [or_iff_right fun both => differs both.1]

/-- A source that is joined is not silent, and the others are as before. -/
theorem mem_silent_join : s' ∈ (m.join h g s).silent g' ↔ ¬ (g = g' ∧ s = s') ∧ s' ∈ m.silent g' := by
  rw [mem_silent, mem_silent, sources_join, hosts_join]
  by_cases both : g = g' ∧ s = s'
  · rw [if_pos both]
    exact iff_of_false (fun silent => Finset.insert_ne_empty _ _ silent.2) fun silent => silent.1 both
  · rw [if_neg both, and_iff_right both]
    split
    · rename_i same
      have other : s' ≠ s := fun at_s => both ⟨same, at_s.symm⟩
      rw [Finset.mem_insert, or_iff_right other]
    · rfl

/-- A host that does not listen does not leave. -/
theorem leave_eq (absent : h ∉ m.hosts g s) : m.leave h g s = m := by
  have kept (g' : γ) (s' : σ) : (m.leave h g s).hosts g' s' = m.hosts g' s' := by
    rw [hosts_leave]
    split
    · rename_i both
      rw [← both.1, ← both.2]
      exact Finset.erase_eq_of_notMem absent
    · rfl
  have hosts : (m.leave h g s).hosts = m.hosts := funext fun g' => funext fun s' => kept g' s'
  exact congrArg (fun hosts => { m with hosts }) hosts

theorem mem_silent_leave : s' ∈ (m.leave h g s).silent g' ↔
    s' ∈ m.sources g' ∧ (if g = g' ∧ s = s' then (m.hosts g' s').erase h else m.hosts g' s') = ∅ := mem_silent

/-- The other sources are as silent as before, and the source is if no other host listens to it. -/
theorem mem_silent_leave_iff (listed : s ∈ m.sources g) : s' ∈ (m.leave h g s).silent g' ↔
    (g = g' ∧ s = s' ∧ (m.hosts g s).erase h = ∅) ∨ (¬ (g = g' ∧ s = s') ∧ s' ∈ m.silent g') := by
  rw [mem_silent_leave]
  by_cases both : g = g' ∧ s = s'
  · obtain ⟨rfl, rfl⟩ := both
    rw [if_pos ⟨rfl, rfl⟩, and_iff_right listed, or_iff_left fun others => others.1 ⟨rfl, rfl⟩,
      and_iff_right rfl, and_iff_right rfl]
  · rw [if_neg both, or_iff_right fun others => both ⟨others.1, others.2.1⟩, and_iff_right both, mem_silent]

/-- Hosts only leave. -/
theorem hosts_foldl_leave : (ss.foldl (leave h g) m).hosts g' s' ⊆ m.hosts g' s' := by
  induction ss generalizing m with
  | nil => exact Finset.Subset.refl _
  | cons s rest ih =>
      refine (ih (m := m.leave h g s)).trans ?_
      rw [hosts_leave]
      split
      · exact Finset.erase_subset _ _
      · exact Finset.Subset.refl _

/-- The hosts of a source that they do not leave -/
theorem hosts_foldl_leave_of_notMem (absent : s ∉ ss) : (ss.foldl (leave h g) m).hosts g s = m.hosts g s := by
  induction ss generalizing m with
  | nil => rfl
  | cons first rest ih =>
      obtain ⟨differs, later⟩ := not_or.mp (mt List.mem_cons.mpr absent)
      refine (ih (m := m.leave h g first) later).trans ?_
      rw [hosts_leave, if_neg fun both => differs both.2.symm]

/-- A source has lost its last host, at the first leave or later. -/
theorem lost_cons : (∃ s' ∈ s :: ss, m.hosts g s' ≠ ∅ ∧ ((s :: ss).foldl (leave h g) m).hosts g s' = ∅) ↔
    (m.hosts g s ≠ ∅ ∧ (m.leave h g s).hosts g s = ∅) ∨
      ∃ s' ∈ ss, (m.leave h g s).hosts g s' ≠ ∅ ∧ (ss.foldl (leave h g) (m.leave h g s)).hosts g s' = ∅ := by
  constructor
  · rintro ⟨s', member, hosted, lost⟩
    by_cases first : (m.leave h g s).hosts g s' = ∅
    · have same : s = s' := by
        by_contra differs
        rw [hosts_leave, if_neg fun both => differs both.2] at first
        exact hosted first
      rw [same]
      exact Or.inl ⟨hosted, same ▸ first⟩
    · have later : s' ∈ ss := by
        by_contra absent
        exact first ((hosts_foldl_leave_of_notMem absent).symm.trans lost)
      exact Or.inr ⟨s', later, first, lost⟩
  · rintro (⟨hosted, lost⟩ | ⟨s', member, hosted, lost⟩)
    · have still : (ss.foldl (leave h g) (m.leave h g s)).hosts g s = ∅ :=
        Finset.subset_empty.mp (lost ▸ hosts_foldl_leave)
      exact ⟨s, List.mem_cons_self, hosted, still⟩
    · have before : m.hosts g s' ≠ ∅ := by
        intro none
        have shrinks : (m.leave h g s).hosts g s' ⊆ m.hosts g s' := @hosts_foldl_leave _ _ _ _ _ _ m h g g s' [s]
        rw [none] at shrinks
        exact hosted (Finset.subset_empty.mp shrinks)
      exact ⟨s', List.mem_cons_of_mem s member, before, lost⟩

end Membership

end Lib
