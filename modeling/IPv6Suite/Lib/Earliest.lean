import IPv6Suite.Lib.StdMap
import Mathlib.Data.List.Induction
import Mathlib.Order.Basic
import Mathlib.Order.Defs.LinearOrder
import Mathlib.Order.Lattice

namespace Lib

/-! ### The first entry of the least stamp -/

section

variable {K V T : Type} [LinearOrder T]

/-- The first key of the least stamp below `bound`, with its stamp. -/
def earliest (stamp : V → T) (bound : T) (entries : List (K × V)) : Option K × T :=
  entries.foldl (fun best entry => if stamp entry.2 < best.2 then (some entry.1, stamp entry.2) else best) (none, bound)

variable {stamp : V → T} {bound : T} {entries : List (K × V)}

theorem earliest_le : (earliest stamp bound entries).2 ≤ bound ∧
    ∀ entry ∈ entries, (earliest stamp bound entries).2 ≤ stamp entry.2 := by
  induction entries using List.reverseRecOn with
  | nil => exact ⟨le_refl _, nofun⟩
  | append_singleton front last ih =>
      unfold earliest at ih ⊢
      rw [List.foldl_append, List.foldl_cons, List.foldl_nil]
      split
      · rename_i less
        refine ⟨(le_of_lt less).trans ih.1, fun entry mem => ?_⟩
        rcases List.mem_append.mp mem with front | same
        · exact (le_of_lt less).trans (ih.2 entry front)
        · rw [List.mem_singleton.mp same]
      · rename_i least
        refine ⟨ih.1, fun entry mem => ?_⟩
        rcases List.mem_append.mp mem with front | same
        · exact ih.2 entry front
        · rw [List.mem_singleton.mp same]
          exact not_lt.mp least

theorem earliest_mem {key : K} (found : (earliest stamp bound entries).1 = some key) :
    ∃ value, (key, value) ∈ entries ∧ stamp value = (earliest stamp bound entries).2 := by
  induction entries using List.reverseRecOn with
  | nil => cases found
  | append_singleton front last ih =>
      unfold earliest at ih found ⊢
      rw [List.foldl_append, List.foldl_cons, List.foldl_nil] at found ⊢
      split at found
      · rename_i less
        cases found
        rw [if_pos less]
        exact ⟨last.2, List.mem_append_right _ (List.mem_singleton_self _), rfl⟩
      · rename_i least
        obtain ⟨value, mem, same⟩ := ih found
        rw [if_neg least]
        exact ⟨value, List.mem_append_left _ mem, same⟩

theorem earliest_none (none : (earliest stamp bound entries).1 = none) : (earliest stamp bound entries).2 = bound := by
  induction entries using List.reverseRecOn with
  | nil => rfl
  | append_singleton front last ih =>
      unfold earliest at ih none ⊢
      rw [List.foldl_append, List.foldl_cons, List.foldl_nil] at none ⊢
      split at none
      · cases none
      · rename_i least
        rw [if_neg least]
        exact ih none

variable {lt : K → K → Prop} [DecidableRel lt] [IsStrictTotalOrder K lt]

/-- In a map with entries below the bound, the key of an entry of the least stamp is found. -/
theorem earliest_toList (m : StdMap K V lt) (filled : m.isEmpty = false)
    (below : ∀ (key : K) (value : V), m[key]? = some value → stamp value < bound) : ∃ (key : K) (value : V),
    (earliest stamp bound m.toList).1 = some key ∧ m[key]? = some value ∧
      ∀ (other : K) (value' : V), m[other]? = some value' → stamp value ≤ stamp value' := by
  obtain ⟨inside, mem⟩ := Std.TreeMap.isEmpty_eq_false_iff_exists_mem.mp filled
  obtain ⟨value', stored⟩ := StdMap.mem_iff_exists.mp mem
  have least := (@earliest_le K V T _ stamp bound m.toList).2
  cases found : (earliest stamp bound m.toList).1 with
  | none =>
      have reached := least _ (Std.TreeMap.mem_toList_iff_getElem?_eq_some.mpr stored)
      rw [earliest_none found] at reached
      exact absurd (below inside value' stored) (not_lt.mpr reached)
  | some key =>
      obtain ⟨value, mem, same⟩ := earliest_mem found
      refine ⟨key, value, rfl, Std.TreeMap.mem_toList_iff_getElem?_eq_some.mp mem, fun other value' stored => ?_⟩
      rw [same]
      exact least _ (Std.TreeMap.mem_toList_iff_getElem?_eq_some.mpr stored)

end

/-! ### The first of the greatest -/

section

variable {α K : Type} [LinearOrder K]

/-- The first of the elements of the greatest key that are wanted, with its key -/
def firstGreatest (wanted : α → Bool) (key : α → K) (low : K) (l : List α) : Option α × K :=
  l.foldl (fun best a => if wanted a = true ∧ (best.1.isNone = true ∨ best.2 < key a) then (some a, key a) else best)
    (none, low)

variable {wanted : α → Bool} {key : α → K} {low : K} {l : List α}

theorem firstGreatest_snoc (front : List α) (last : α) :
    firstGreatest wanted key low (front ++ [last]) =
      if wanted last = true ∧ ((firstGreatest wanted key low front).1.isNone = true ∨
          (firstGreatest wanted key low front).2 < key last) then (some last, key last)
      else firstGreatest wanted key low front := by
  unfold firstGreatest
  rw [List.foldl_append, List.foldl_cons, List.foldl_nil]

theorem firstGreatest_eq_none : (firstGreatest wanted key low l).1 = none ↔ ∀ a ∈ l, wanted a = false := by
  induction l using List.reverseRecOn with
  | nil => simp [firstGreatest]
  | append_singleton front last ih =>
      rw [firstGreatest_snoc]
      split
      · rename_i taken
        simp [taken.1]
      · rename_i left
        rw [ih]
        constructor
        · intro none a member
          rcases List.mem_append.mp member with before | same
          · exact none a before
          · rw [List.mem_singleton.mp same, ← Bool.not_eq_true]
            exact fun want => left ⟨want, .inl (by rw [ih.mpr none]; rfl)⟩
        · exact fun none a member => none a (List.mem_append_left _ member)

/-- What stands in front of the element that is found and is wanted has a lesser key, and what stands behind it none that
is greater. -/
theorem firstGreatest_eq_some {a : α} (found : (firstGreatest wanted key low l).1 = some a) :
    (firstGreatest wanted key low l).2 = key a ∧ wanted a = true ∧ ∃ front back, l = front ++ a :: back ∧
      (∀ b ∈ front, wanted b = true → key b < key a) ∧ ∀ b ∈ back, wanted b = true → key b ≤ key a := by
  induction l using List.reverseRecOn generalizing a with
  | nil => cases found
  | append_singleton front last ih =>
      rw [firstGreatest_snoc] at found ⊢
      split at found
      · rename_i taken
        cases found
        rw [if_pos taken]
        refine ⟨rfl, taken.1, front, [], rfl, fun b member want => ?_, nofun⟩
        cases best : (firstGreatest wanted key low front).1 with
        | none =>
            rw [firstGreatest_eq_none.mp best b member] at want
            cases want
        | some c =>
            obtain ⟨noted, -, before, behind, rfl, less, rest⟩ := ih best
            rw [best, noted] at taken
            have greater : key c < key last := taken.2.resolve_left (by simp)
            rcases List.mem_append.mp member with inside | inside
            · exact (less b inside want).trans greater
            · rcases List.mem_cons.mp inside with same | inside
              · rw [same]
                exact greater
              · exact lt_of_le_of_lt (rest b inside want) greater
      · rename_i left
        obtain ⟨noted, want, before, back, rfl, less, rest⟩ := ih found
        rw [if_neg left]
        refine ⟨noted, want, before, back ++ [last], by simp, less, fun b member wantB => ?_⟩
        rcases List.mem_append.mp member with inside | same
        · exact rest b inside wantB
        · rw [List.mem_singleton.mp same] at wantB ⊢
          rw [← noted, ← not_lt]
          exact fun greater => left ⟨wantB, .inr greater⟩

end

end Lib
