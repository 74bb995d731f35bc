import Mathlib.Algebra.Order.Field.Basic
import Mathlib.Data.Fintype.EquivFin
import Mathlib.Data.Fintype.Lattice
import Mathlib.Data.List.Nodup
import Mathlib.Tactic.Linarith

namespace Lib

/-! ### Who of several entrants comes first

An entrant that takes part has an instant. Of those that tie for the first place the greatest wins. -/

namespace Contest

variable {ι K : Type} [Field K] [LinearOrder K] [IsStrictOrderedRing K]

/-- An entrant with the earliest instant -/
def Earliest (inst : ι → Option K) (j : ι) : Prop :=
  ∃ x, inst j = some x ∧ ∀ k y, inst k = some y → x ≤ y

/-- An entrant whose instant is less than `ε` behind every other -/
def Near (ε : K) (inst : ι → Option K) (j : ι) : Prop :=
  ∃ x, inst j = some x ∧ ∀ k y, inst k = some y → x < y + ε

/-- No entrant is close behind the earliest without being as early. -/
def Apart (ε : K) (inst : ι → Option K) : Prop := ∀ j, Near ε inst j → Earliest inst j

/-- The winner is the greatest of the tied entrants, and the others of them are listed, each once. -/
structure Decided [LinearOrder ι] (tied : ι → Prop) (winner : Option ι) (ties : List ι) : Prop where
  none : winner = none → ∀ j, ¬ tied j
  highest : ∀ c, winner = some c → tied c ∧ ∀ j, tied j → j ≤ c
  nodup : ties.Nodup
  mem : ∀ j, j ∈ ties ↔ tied j ∧ winner ≠ some j

variable {inst inst' : ι → Option K} {ε : K} {j : ι}

omit [Field K] [IsStrictOrderedRing K] in
theorem Earliest.isSome (earliest : Earliest inst j) : (inst j).isSome = true := by
  obtain ⟨x, same, _⟩ := earliest
  simp [same]

omit [IsStrictOrderedRing K] in
theorem Near.isSome (near : Near ε inst j) : (inst j).isSome = true := by
  obtain ⟨x, same, _⟩ := near
  simp [same]

omit [Field K] [IsStrictOrderedRing K] in
/-- Somebody takes part, so somebody is the earliest. -/
theorem exists_earliest [Finite ι] (entered : (inst j).isSome = true) : ∃ k, Earliest inst k := by
  have : Nonempty { k // (inst k).isSome = true } := ⟨⟨j, entered⟩⟩
  obtain ⟨⟨k, first⟩, least⟩ := Finite.exists_min fun k : { k // (inst k).isSome = true } => (inst k.1).get k.2
  refine ⟨k, (inst k).get first, (Option.some_get first).symm, ?_⟩
  intro i y other
  have := least ⟨i, by simp [other]⟩
  simpa [other] using this

theorem Earliest.near (positive : 0 < ε) (earliest : Earliest inst j) : Near ε inst j := by
  obtain ⟨x, same, least⟩ := earliest
  refine ⟨x, same, ?_⟩
  intro k y other
  have := least k y other
  linarith

omit [IsStrictOrderedRing K] in
/-- Without entrants there is neither a winner nor a tie. -/
theorem decided_nobody [LinearOrder ι] (nobody : ∀ j, inst j = none) : Decided (Near ε inst) none [] := by
  have never (j : ι) : ¬ Near ε inst j := by
    intro near
    have := near.isSome
    simp [nobody j] at this
  exact ⟨fun _ => never, nofun, List.nodup_nil, fun j => by simp [never j]⟩

theorem Apart.near_iff (apart : Apart ε inst) (positive : 0 < ε) (j : ι) : Near ε inst j ↔ Earliest inst j :=
  ⟨apart j, Earliest.near positive⟩

/-- Whether an entrant is near the earliest one is seen from the distance to that one. -/
theorem near_iff {a : ι} {x y : K} (least : ∀ k z, inst k = some z → x ≤ z) (first : inst a = some x)
    (other : inst j = some y) : Near ε inst j ↔ y - x < ε := by
  constructor
  · rintro ⟨y', same, near⟩
    have := near a x first
    rw [other, Option.some.injEq] at same
    linarith
  · intro close
    refine ⟨y, other, ?_⟩
    intro k z entrant
    have := least k z entrant
    linarith

/-- Nothing changes when every instant is shifted alike. -/
theorem near_shift {d : K} (shifted : ∀ k, inst' k = (inst k).map (· + d)) : Near ε inst' j ↔ Near ε inst j := by
  constructor
  · rintro ⟨x, same, near⟩
    rw [shifted, Option.map_eq_some_iff] at same
    obtain ⟨x, same, rfl⟩ := same
    refine ⟨x, same, ?_⟩
    intro k y entrant
    have := near k (y + d) (by simp [shifted, entrant])
    linarith
  · rintro ⟨x, same, near⟩
    refine ⟨x + d, by simp [shifted, same], ?_⟩
    intro k y entrant
    rw [shifted, Option.map_eq_some_iff] at entrant
    obtain ⟨y, entrant, rfl⟩ := entrant
    have := near k y entrant
    linarith

theorem apart_shift {d : K} (shifted : ∀ k, inst' k = (inst k).map (· + d)) (apart : Apart ε inst) :
    Apart ε inst' := by
  intro j near
  obtain ⟨x, same, least⟩ := apart j ((near_shift shifted).mp near)
  refine ⟨x + d, by simp [shifted, same], ?_⟩
  intro k y entrant
  rw [shifted, Option.map_eq_some_iff] at entrant
  obtain ⟨y, entrant, rfl⟩ := entrant
  have := least k y entrant
  linarith

/-- Instants that are whole steps apart are not close to each other. -/
theorem apart_of_steps {step base : K} (coarse : ε ≤ step)
    (steps : ∀ k x, inst k = some x → ∃ n : Nat, x = base + n * step) (positive : 0 < step) : Apart ε inst := by
  rintro j ⟨x, same, near⟩
  refine ⟨x, same, ?_⟩
  intro k y entrant
  obtain ⟨n, rfl⟩ := steps j x same
  obtain ⟨m, rfl⟩ := steps k y entrant
  have close := near k _ entrant
  have less : (n : K) * step < (m + 1 : Nat) * step := by
    push_cast
    linarith
  have below : n < m + 1 := by exact_mod_cast lt_of_mul_lt_mul_right less positive.le
  have ordered : (n : K) ≤ m := by exact_mod_cast Nat.lt_succ_iff.mp below
  have := mul_le_mul_of_nonneg_right ordered positive.le
  linarith

/-! ### The search for the earliest -/

section Soonest

variable (sooner : K → K → Prop) [DecidableRel sooner] (inst : ι → Option K)

def soonestStep (best : Option ι × K) (j : ι) : Option ι × K :=
  match inst j with
  | some x => if sooner x best.2 then (some j, x) else best
  | none => best

/-- An entrant whose instant is not behind any other, among those that are in time for `bound` -/
def soonest (bound : K) (entrants : List ι) : Option ι × K := entrants.foldl (soonestStep sooner inst) (none, bound)

variable {sooner} {bound : K} {entrants : List ι}

omit [Field K] [IsStrictOrderedRing K] in
/-- Also if the search goes on from some entrant -/
theorem foldl_soonestStep (le : ∀ {x y}, sooner x y → x ≤ y) (ge : ∀ {x y}, ¬ sooner x y → y ≤ x)
    (entrants : List ι) (best : Option ι × K) :
    let found := entrants.foldl (soonestStep sooner inst) best
    found.2 ≤ best.2 ∧ (∀ j ∈ entrants, ∀ x, inst j = some x → found.2 ≤ x) ∧
      (found = best ∨ ∃ a ∈ entrants, found.1 = some a ∧ inst a = some found.2) := by
  induction entrants generalizing best with
  | nil => exact ⟨le_refl _, nofun, Or.inl rfl⟩
  | cons head rest ih =>
      obtain ⟨below, least, origin⟩ := ih (soonestStep sooner inst best head)
      simp only [List.foldl_cons]
      have step : (soonestStep sooner inst best head).2 ≤ best.2 ∧
          (∀ x, inst head = some x → (soonestStep sooner inst best head).2 ≤ x) ∧
          (soonestStep sooner inst best head = best ∨ (soonestStep sooner inst best head).1 = some head ∧
            inst head = some (soonestStep sooner inst best head).2) := by
        unfold soonestStep
        cases same : inst head with
        | none => simp
        | some x =>
            by_cases early : sooner x best.2
            · simp [early, le early]
            · simp [early, ge early]
      refine ⟨below.trans step.1, ?_, ?_⟩
      · intro j member x entrant
        rcases List.mem_cons.mp member with rfl | later
        · exact below.trans (step.2.1 x entrant)
        · exact least j later x entrant
      · rcases origin with same | ⟨a, member, found, entrant⟩
        · rcases step.2.2 with kept | ⟨first, entrant⟩
          · exact Or.inl (same.trans kept)
          · exact Or.inr ⟨head, List.mem_cons_self, by rw [same]; exact first, by rw [same]; exact entrant⟩
        · exact Or.inr ⟨a, List.mem_cons_of_mem _ member, found, entrant⟩

omit [Field K] [IsStrictOrderedRing K] in
/-- The one that is found is the earliest of all. -/
theorem earliest_soonest (le : ∀ {x y}, sooner x y → x ≤ y) (ge : ∀ {x y}, ¬ sooner x y → y ≤ x)
    (all : ∀ k, k ∈ entrants) {a : ι} (found : (soonest sooner inst bound entrants).1 = some a) :
    Earliest inst a := by
  obtain ⟨_, least, origin⟩ := foldl_soonestStep inst le ge entrants (none, bound)
  unfold soonest at found
  rcases origin with same | ⟨b, _, first, entrant⟩
  · rw [same] at found
    cases found
  · rw [first, Option.some.injEq] at found
    subst found
    exact ⟨_, entrant, fun k y other => least k (all k) y other⟩

omit [Field K] [IsStrictOrderedRing K] [LinearOrder K] in
theorem foldl_isSome {best : Option ι × K} (already : best.1.isSome = true) :
    (entrants.foldl (soonestStep sooner inst) best).1.isSome = true := by
  induction entrants generalizing best with
  | nil => exact already
  | cons head rest ih =>
      apply ih
      unfold soonestStep
      split
      · split
        · simp
        · exact already
      · exact already

omit [Field K] [LinearOrder K] [IsStrictOrderedRing K] in
/-- Nobody is found exactly if nobody is in time for the bound. -/
theorem soonest_eq_none : (soonest sooner inst bound entrants).1 = none ↔
    ∀ j ∈ entrants, ∀ x, inst j = some x → ¬ sooner x bound := by
  unfold soonest
  induction entrants with
  | nil => simp
  | cons head rest ih =>
      rw [List.foldl_cons, List.forall_mem_cons]
      cases same : inst head with
      | none =>
          have kept : soonestStep sooner inst (none, bound) head = (none, bound) := by simp [soonestStep, same]
          rw [kept, ih]
          simp
      | some x =>
          by_cases early : sooner x bound
          · have found : (soonestStep sooner inst (none, bound) head).1.isSome = true := by
              simp [soonestStep, same, early]
            have later : (rest.foldl (soonestStep sooner inst) _).1.isSome = true := foldl_isSome inst found
            constructor
            · intro nobody
              simp [nobody] at later
            · intro none
              exact absurd early (none.1 x rfl)
          · have kept : soonestStep sooner inst (none, bound) head = (none, bound) := by
              simp [soonestStep, same, early]
            rw [kept, ih]
            simp [early]

end Soonest

/-! ### The resolution of ties -/

section Resolve

variable [LinearOrder ι] (tied : ι → Prop) [DecidablePred tied]

/-- The greatest so far, with the others that tie -/
def resolveStep (r : ι × List ι) (i : ι) : ι × List ι :=
  if tied i then if r.1 < i then (i, r.2 ++ [r.1]) else (r.1, r.2 ++ [i]) else r

/-- The winner and the others together are the one it started with and the tied entrants that were met. -/
theorem foldl_resolveStep (r : ι × List ι) (entrants : List ι) :
    let found := entrants.foldl (resolveStep tied) r
    (found.1 :: found.2).Perm ((r.1 :: r.2) ++ entrants.filter (fun i => tied i)) ∧
      r.1 ≤ found.1 ∧ ∀ i ∈ entrants, tied i → i ≤ found.1 := by
  induction entrants generalizing r with
  | nil => simp
  | cons head rest ih =>
      obtain ⟨perm, above, greatest⟩ := ih (resolveStep tied r head)
      simp only [List.foldl_cons]
      have step : ((resolveStep tied r head).1 :: (resolveStep tied r head).2).Perm
          ((r.1 :: r.2) ++ if tied head then [head] else []) ∧ r.1 ≤ (resolveStep tied r head).1 ∧
          (tied head → head ≤ (resolveStep tied r head).1) := by
        unfold resolveStep
        by_cases ties : tied head
        · by_cases less : r.1 < head
          · simp only [ties, less, if_true]
            refine ⟨?_, less.le, fun _ => le_refl _⟩
            exact ((List.perm_append_singleton r.1 r.2).cons head).trans
              (List.perm_append_singleton head (r.1 :: r.2)).symm
          · simp only [ties, less, if_true, if_false]
            exact ⟨by simp, le_refl _, fun _ => not_lt.mp less⟩
        · simp [ties]
      have split : (head :: rest).filter (fun i => tied i) =
          (if tied head then [head] else []) ++ rest.filter (fun i => tied i) := by
        by_cases ties : tied head <;> simp [ties]
      refine ⟨?_, step.2.1.trans above, ?_⟩
      · rw [split, ← List.append_assoc]
        exact perm.trans (step.1.append_right _)
      · intro i member ties
        rcases List.mem_cons.mp member with rfl | later
        · exact (step.2.2 ties).trans above
        · exact greatest i later ties

/-- All others compared with a tied one, first those above it and then those below it -/
def resolve (higher lower : List ι) (a : ι) : ι × List ι :=
  let r := higher.foldl (resolveStep tied) (a, [])
  (r.1, r.2 ++ lower.filter fun i => tied i)

variable {tied}

theorem decided_resolve {higher lower : List ι} {a : ι} (first : tied a) (nodup : (a :: (higher ++ lower)).Nodup)
    (all : ∀ j, j ∈ a :: (higher ++ lower)) (below : ∀ i ∈ lower, i < a) :
    Decided tied (some (resolve tied higher lower a).1) (resolve tied higher lower a).2 := by
  obtain ⟨perm, above, greatest⟩ := foldl_resolveStep tied (a, []) higher
  unfold resolve
  dsimp only
  generalize higher.foldl (resolveStep tied) (a, []) = r at perm above greatest ⊢
  have together : (r.1 :: (r.2 ++ lower.filter fun i => tied i)).Perm
      (a :: (higher ++ lower).filter fun i => tied i) := by
    rw [List.filter_append, ← List.cons_append, ← List.cons_append]
    exact perm.append_right _
  have distinct := together.nodup_iff.mpr
    (nodup.sublist (List.Sublist.cons_cons a List.filter_sublist))
  have member (j : ι) : j ∈ r.1 :: (r.2 ++ lower.filter fun i => tied i) ↔ tied j := by
    rw [together.mem_iff, List.mem_cons, List.mem_filter, decide_eq_true_eq]
    constructor
    · rintro (rfl | ⟨_, ties⟩)
      · exact first
      · exact ties
    · intro ties
      rcases List.mem_cons.mp (all j) with same | other
      · exact Or.inl same
      · exact Or.inr ⟨other, ties⟩
  have tops (j : ι) (ties : tied j) : j ≤ r.1 := by
    rcases List.mem_cons.mp (all j) with rfl | other
    · exact above
    · rcases List.mem_append.mp other with up | down
      · exact greatest j up ties
      · exact (below j down).le.trans above
  refine ⟨nofun, ?_, (List.nodup_cons.mp distinct).2, ?_⟩
  · rintro c ⟨⟩
    exact ⟨(member r.1).mp List.mem_cons_self, tops⟩
  · intro j
    constructor
    · intro listed
      refine ⟨(member j).mp (List.mem_cons_of_mem _ listed), ?_⟩
      rintro ⟨⟩
      exact (List.nodup_cons.mp distinct).1 listed
    · rintro ⟨ties, other⟩
      rcases List.mem_cons.mp ((member j).mpr ties) with rfl | listed
      · exact absurd rfl other
      · exact listed

end Resolve

end Contest

end Lib
