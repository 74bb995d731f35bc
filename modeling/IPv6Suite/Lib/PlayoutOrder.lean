import Mathlib.Data.List.Nodup
import Mathlib.Order.Defs.LinearOrder
import Mathlib.Order.Lattice

namespace Lib

variable {α τ : Type} [LinearOrder τ]

/-- Items are played in the order of their keys: `due` is the key of the next one, which is the earliest that waits. -/
structure PlayoutOrder (key : α → τ) (waiting played : List α) (due : Option τ) : Prop where
  idle : due = none ↔ waiting = []
  earliest : ∀ t, due = some t → (∃ a ∈ waiting, key a = t) ∧ ∀ b ∈ waiting, t ≤ key b
  order : played.Pairwise fun a b => key a < key b
  newer : ∀ a ∈ played, ∀ b ∈ waiting, key a < key b
  distinct : (waiting.map key).Nodup

namespace PlayoutOrder

variable {key : α → τ} {waiting waiting' played rest : List α} {due : Option τ} {t : τ} {a : α}

theorem start (key : α → τ) : PlayoutOrder key [] [] none where
  idle := iff_of_true rfl rfl
  earliest _ due := nomatch due
  order := .nil
  newer _ inside := nomatch inside
  distinct := List.nodup_nil

theorem perm (ordered : PlayoutOrder key waiting played due) (same : waiting.Perm waiting') :
    PlayoutOrder key waiting' played due where
  idle := ordered.idle.trans ⟨fun empty => (empty ▸ same).nil_eq.symm, fun empty => (empty ▸ same).eq_nil⟩
  earliest t is := by
    obtain ⟨⟨a, inside, first⟩, least⟩ := ordered.earliest t is
    exact ⟨⟨a, same.mem_iff.mp inside, first⟩, fun b inside => least b (same.mem_iff.mpr inside)⟩
  order := ordered.order
  newer a inside b waits := ordered.newer a inside b (same.mem_iff.mpr waits)
  distinct := (same.map key).nodup_iff.mp ordered.distinct

/-- The first item to wait is the next one. -/
theorem begin (ordered : PlayoutOrder key [] played due) (newer : ∀ b ∈ played, key b < key a) :
    PlayoutOrder key [a] played (some (key a)) where
  idle := iff_of_false (Option.some_ne_none _) (List.cons_ne_nil _ _)
  earliest t is := by
    cases is
    exact ⟨⟨a, List.mem_singleton_self a, rfl⟩, fun b inside => le_of_eq (by rw [List.mem_singleton.mp inside])⟩
  order := ordered.order
  newer b inside c waits := by
    rw [List.mem_singleton.mp waits]
    exact newer b inside
  distinct := List.nodup_singleton _

/-- An item that joins is not earlier than the next one. -/
theorem join (ordered : PlayoutOrder key waiting played (some t)) (le : t ≤ key a) (fresh : key a ∉ waiting.map key) :
    PlayoutOrder key (a :: waiting) played (some t) where
  idle := iff_of_false (Option.some_ne_none _) (List.cons_ne_nil _ _)
  earliest t' is := by
    cases is
    obtain ⟨⟨b, inside, first⟩, least⟩ := ordered.earliest t rfl
    refine ⟨⟨b, List.mem_cons_of_mem _ inside, first⟩, fun c inside => ?_⟩
    rcases List.mem_cons.mp inside with rfl | inside
    · exact le
    · exact least c inside
  order := ordered.order
  newer b inside c waits := by
    rcases List.mem_cons.mp waits with rfl | waits
    · obtain ⟨⟨d, waits, first⟩, -⟩ := ordered.earliest t rfl
      exact lt_of_lt_of_le (first ▸ ordered.newer b inside d waits) le
    · exact ordered.newer b inside c waits
  distinct := List.nodup_cons.mpr ⟨fresh, ordered.distinct⟩

/-- What is played is what was due. -/
theorem due_eq (ordered : PlayoutOrder key (a :: rest) played (some t)) (least : ∀ b ∈ rest, key a ≤ key b) : key a = t := by
  obtain ⟨⟨b, inside, first⟩, earliest⟩ := ordered.earliest t rfl
  refine le_antisymm ?_ (earliest a List.mem_cons_self)
  rcases List.mem_cons.mp inside with rfl | inside
  · exact le_of_eq first
  · exact first ▸ least b inside

/-- When the next item is played, the one after it is due. -/
theorem play (ordered : PlayoutOrder key (a :: rest) played (some t))
    (sorted : (a :: rest).Pairwise fun a b => key a ≤ key b) : PlayoutOrder key rest (played ++ [a]) (rest.head?.map key) where
  idle := Option.map_eq_none_iff.trans List.head?_eq_none_iff
  earliest t' is := by
    obtain ⟨b, first, rfl⟩ := Option.map_eq_some_iff.mp is
    have sorted' := (List.pairwise_cons.mp sorted).2
    cases rest with
    | nil => cases first
    | cons next rest =>
        cases first
        refine ⟨⟨b, List.mem_cons_self, rfl⟩, fun c inside => ?_⟩
        rcases List.mem_cons.mp inside with rfl | inside
        · exact le_refl _
        · exact (List.pairwise_cons.mp sorted').1 c inside
  order := by
    refine List.pairwise_append.mpr ⟨ordered.order, List.pairwise_singleton _ _, fun b inside c last => ?_⟩
    rw [List.mem_singleton.mp last]
    exact ordered.newer b inside a List.mem_cons_self
  newer b inside c waits := by
    rcases List.mem_append.mp inside with inside | last
    · exact ordered.newer b inside c (List.mem_cons_of_mem _ waits)
    · rw [List.mem_singleton.mp last]
      refine lt_of_le_of_ne ((List.pairwise_cons.mp sorted).1 c waits) fun same => ?_
      exact (List.nodup_cons.mp ordered.distinct).1 (same ▸ List.mem_map_of_mem waits)
  distinct := (List.nodup_cons.mp ordered.distinct).2

end PlayoutOrder

end Lib
