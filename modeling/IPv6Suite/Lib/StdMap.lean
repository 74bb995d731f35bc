import Std.Data.TreeMap
import Mathlib.Tactic.Common
import Mathlib.Data.Ordering.Lemmas
import Mathlib.Order.Defs.Unbundled

namespace Lib

variable {K V : Type} {lt : K → K → Prop} [DecidableRel lt]

instance cmpUsing_trans [IsStrictTotalOrder K lt] : Std.TransCmp (cmpUsing lt) where
  eq_swap {a b} := by
    rcases trichotomous_of lt a b with below | rfl | above
    · rw [(cmpUsing_eq_lt a b).mpr below, (cmpUsing_eq_gt b a).mpr below, Ordering.swap]
    · rw [(cmpUsing_eq_eq a a).mpr ⟨irrefl a, irrefl a⟩, Ordering.swap]
    · rw [(cmpUsing_eq_gt a b).mpr above, (cmpUsing_eq_lt b a).mpr above, Ordering.swap]
  isLE_trans {a b c} first second := by
    rw [← Ordering.ne_gt_iff_isLE, cmpUsing_eq_gt] at first second ⊢
    intro above
    rcases trichotomous_of lt a b with below | rfl | above
    · exact second (trans_of lt above below)
    · exact second above
    · exact first above

instance cmpUsing_lawfulEq [IsStrictTotalOrder K lt] : Std.LawfulEqCmp (cmpUsing lt) where
  compare_self {a} := (cmpUsing_eq_eq a a).mpr ⟨irrefl a, irrefl a⟩
  eq_of_compare {a b} equal := by
    rw [cmpUsing_eq_eq] at equal
    rcases trichotomous_of lt a b with below | same | above
    · exact absurd below equal.1
    · exact same
    · exact absurd above equal.2

/-- The order of unsigned integers -/
instance bitVec_isStrictTotalOrder {w : Nat} : IsStrictTotalOrder (BitVec w) (· < ·) where
  trichotomous a b below above := by
    rw [BitVec.lt_def] at below above
    exact BitVec.eq_of_toNat_eq (by omega)
  irrefl a less := Nat.lt_irrefl _ (BitVec.lt_def.mp less)
  trans a b c first second := by
    rw [BitVec.lt_def] at first second ⊢
    exact Nat.lt_trans first second

variable (K V lt) in
/-- `std::map<K, V>` ordered by the key's `operator<`. -/
abbrev StdMap := Std.TreeMap K V (cmpUsing lt)

namespace StdMap

variable [IsStrictTotalOrder K lt] (m : StdMap K V lt)

theorem ordered : m.toList.Pairwise fun a b => lt a.1 b.1 := by
  have pairwise := Std.TreeMap.ordered_keys_toList (t := m)
  simpa only [cmpUsing_eq_lt] using pairwise

/-- The first element that satisfies `p` in iteration order satisfies it and no
smaller key does. -/
theorem find?_toList_eq_some {p : K × V → Bool} {entry : K × V} (found : m.toList.find? p = some entry) :
    p entry = true ∧ m[entry.1]? = some entry.2 ∧ ∀ key value, m[key]? = some value → p (key, value) = true →
        key = entry.1 ∨ lt entry.1 key := by
  obtain ⟨holds, front, back, split, before⟩ := List.find?_eq_some_iff_append.mp found
  refine ⟨holds, ?_, ?_⟩
  · rw [← Std.TreeMap.mem_toList_iff_getElem?_eq_some, split]
    simp
  · intro key value stored matched
    rw [← Std.TreeMap.mem_toList_iff_getElem?_eq_some, split, List.mem_append,
      List.mem_cons] at stored
    rcases stored with early | same | late
    · have unmatched := before _ early
      simp [matched] at unmatched
    · exact Or.inl (congrArg Prod.fst same)
    · have sorted := ordered m
      rw [split, List.pairwise_append, List.pairwise_cons] at sorted
      exact Or.inr (sorted.2.1.1 _ late)

theorem find?_toList_eq_none {p : K × V → Bool} :
    m.toList.find? p = none ↔ ∀ key value, m[key]? = some value → p (key, value) = false := by
  simp only [List.find?_eq_none, Prod.forall, Std.TreeMap.mem_toList_iff_getElem?_eq_some,
    Bool.not_eq_true]

/-- The first element has the least key. -/
theorem head?_toList_eq_some {entry : K × V} (first : m.toList.head? = some entry) : m[entry.1]? = some entry.2 ∧
      ∀ key value, m[key]? = some value → key = entry.1 ∨ lt entry.1 key := by
  have found : m.toList.find? (fun _ => true) = some entry := by
    cases list : m.toList with
    | nil => rw [list] at first; cases first
    | cons head rest => rw [list] at first; exact first
  obtain ⟨-, stored, least⟩ := find?_toList_eq_some m found
  exact ⟨stored, fun key value other => least key value other rfl⟩

theorem head?_toList_eq_none (empty : m.toList.head? = none) (key : K) : m[key]? = none := by
  cases stored : m[key]? with
  | none => rfl
  | some value =>
      rw [← Std.TreeMap.mem_toList_iff_getElem?_eq_some, List.head?_eq_none_iff.mp empty] at stored
      cases stored

variable {m} {key other : K} {value : V}

theorem mem_insert : other ∈ m.insert key value ↔ key = other ∨ other ∈ m := by
  rw [Std.TreeMap.mem_insert, Std.LawfulEqCmp.compare_eq_iff_eq]

theorem mem_erase : other ∈ m.erase key ↔ key ≠ other ∧ other ∈ m := by
  rw [Std.TreeMap.mem_erase, ne_eq, Std.LawfulEqCmp.compare_eq_iff_eq]

theorem getElem?_insert_self : (m.insert key value)[key]? = some value := by
  rw [Std.TreeMap.getElem?_insert, if_pos Std.ReflCmp.compare_self]

theorem getElem?_insert_ne (apart : key ≠ other) : (m.insert key value)[other]? = m[other]? := by
  rw [Std.TreeMap.getElem?_insert, if_neg (mt Std.LawfulEqCmp.eq_of_compare apart)]

theorem getElem?_erase_self : (m.erase key)[key]? = none := by
  rw [Std.TreeMap.getElem?_erase, if_pos Std.ReflCmp.compare_self]

theorem getElem?_erase_ne (apart : key ≠ other) : (m.erase key)[other]? = m[other]? := by
  rw [Std.TreeMap.getElem?_erase, if_neg (mt Std.LawfulEqCmp.eq_of_compare apart)]

theorem mem_iff_exists : key ∈ m ↔ ∃ value, m[key]? = some value := by
  rw [Std.TreeMap.mem_iff_isSome_getElem?, Option.isSome_iff_exists]

theorem size_erase_of_mem (inside : key ∈ m) : m.size = (m.erase key).size + 1 := by
  have filled : m.isEmpty = false := Std.TreeMap.isEmpty_eq_false_iff_exists_mem.mpr ⟨key, inside⟩
  rw [Std.TreeMap.isEmpty_eq_size_eq_zero, beq_eq_false_iff_ne] at filled
  rw [Std.TreeMap.size_erase, if_pos (Std.TreeMap.contains_iff_mem.mpr inside)]
  omega

theorem getElem?_foldl_insert (f : V → V) (entries : List (K × V))
    (distinct : entries.Pairwise fun a b => lt a.1 b.1) (stored : ∀ e ∈ entries, m[e.1]? = some e.2) (key : K) :
    (key ∈ entries.map Prod.fst → (entries.foldl (fun m e => m.insert e.1 (f e.2)) m)[key]? = m[key]?.map f) ∧
      (key ∉ entries.map Prod.fst → (entries.foldl (fun m e => m.insert e.1 (f e.2)) m)[key]? = m[key]?) := by
  induction entries generalizing m with
  | nil => exact ⟨nofun, fun _ => rfl⟩
  | cons e rest ih =>
      obtain ⟨before, distinct⟩ := List.pairwise_cons.mp distinct
      have apart {k : K} (later : k ∈ rest.map Prod.fst) : e.1 ≠ k := by
        obtain ⟨e', member, rfl⟩ := List.mem_map.mp later
        exact ne_of_irrefl (before e' member)
      have still : ∀ e' ∈ rest, (m.insert e.1 (f e.2))[e'.1]? = some e'.2 := by
        intro e' member
        have other := apart (List.mem_map_of_mem (f := Prod.fst) member)
        exact (getElem?_insert_ne other).trans (stored e' (List.mem_cons_of_mem e member))
      obtain ⟨inside, outside⟩ := ih distinct still
      rw [List.foldl_cons, List.map_cons, List.mem_cons]
      by_cases later : key ∈ rest.map Prod.fst
      · rw [inside later, getElem?_insert_ne (apart later)]
        exact ⟨fun _ => rfl, fun absent => absurd (Or.inr later) absent⟩
      · rw [outside later]
        by_cases here : e.1 = key
        · rw [← here, getElem?_insert_self, stored e List.mem_cons_self]
          exact ⟨fun _ => rfl, fun absent => absurd (Or.inl rfl) absent⟩
        · rw [getElem?_insert_ne here]
          exact ⟨fun member => absurd member (by simp [Ne.symm here, later]), fun _ => rfl⟩

/-- A loop over the map that changes each value in its place -/
theorem getElem?_foldl_toList (m : StdMap K V lt) (f : V → V) (key : K) :
    (m.toList.foldl (fun m e => m.insert e.1 (f e.2)) m)[key]? = m[key]?.map f := by
  have stored : ∀ e ∈ m.toList, m[e.1]? = some e.2 := fun _ => Std.TreeMap.mem_toList_iff_getElem?_eq_some.mp
  obtain ⟨inside, outside⟩ := getElem?_foldl_insert f m.toList (ordered m) stored key
  cases there : m[key]? with
  | none =>
      rw [outside, there]
      · rfl
      · intro member
        obtain ⟨e, entry, rfl⟩ := List.mem_map.mp member
        rw [stored e entry] at there
        cases there
  | some value =>
      have member := Std.TreeMap.mem_toList_iff_getElem?_eq_some.mpr there
      rw [inside (List.mem_map_of_mem (f := Prod.fst) member), there]

end StdMap

end Lib
