import IPv6Suite.IPv6CDS

namespace IPv6Suite

open Lib

abbrev PrefixMap := StdMap IPv6Address PrefixNode IPv6Address.lt

/-- Every node is stored under its own prefix and is the only one at its address. -/
structure PrefixKeys (m : PrefixMap) (next : Ptr) : Prop where
  key : ∀ (k : IPv6Address) (node : PrefixNode), m[k]? = some node → node.entry.prefixAddr = k
  pointers : ∀ (k₁ : IPv6Address) (n₁ : PrefixNode) (k₂ : IPv6Address) (n₂ : PrefixNode),
    m[k₁]? = some n₁ → m[k₂]? = some n₂ → n₁.ptr = n₂.ptr → k₁ = k₂
  fresh : ∀ (k : IPv6Address) (node : PrefixNode), m[k]? = some node → node.ptr < next

/-- `p` is the address of a stored prefix with a finite valid lifetime. -/
def FinitePrefix (m : PrefixMap) (p : Ptr) : Prop :=
  ∃ (k : IPv6Address) (node : PrefixNode), m[k]? = some node ∧ node.ptr = p ∧
    node.entry.advValidLifetime ≠ validLifetimeInfinity

/-- `node` becomes the node at `k`, at the old address or a fresh one. -/
structure NodeSet (m m' : PrefixMap) (next next' : Ptr) (k : IPv6Address) (node : PrefixNode) :
    Prop where
  stored : m'[k]? = some node
  others : ∀ k' : IPv6Address, k' ≠ k → m'[k']? = m[k']?
  key : node.entry.prefixAddr = k
  pointer : (∃ old : PrefixNode, m[k]? = some old ∧ old.ptr = node.ptr) ∨
    m[k]? = none ∧ node.ptr = next ∧ next < next'
  next : next ≤ next'

namespace NodeSet

variable {m m' : PrefixMap} {next next' : Ptr} {k : IPv6Address} {node : PrefixNode}

theorem other_ptr (set : NodeSet m m' next next' k node) (keys : PrefixKeys m next)
    {k' : IPv6Address} {other : PrefixNode} (apart : k' ≠ k) (stored : m[k']? = some other) :
    other.ptr ≠ node.ptr := by
  intro same
  rcases set.pointer with ⟨old, before, oldPtr⟩ | ⟨-, atNext, -⟩
  · exact apart (keys.pointers k' other k old stored before (same.trans oldPtr.symm))
  · have bound := keys.fresh k' other stored
    rw [same, atNext] at bound
    exact absurd bound (Nat.lt_irrefl _)

theorem keys (set : NodeSet m m' next next' k node) (keys : PrefixKeys m next) : PrefixKeys m' next' where
  key k' other stored := by
    by_cases same : k' = k
    · subst same
      rw [set.stored, Option.some.injEq] at stored
      rw [← stored]
      exact set.key
    · rw [set.others k' same] at stored
      exact keys.key k' other stored
  pointers k₁ n₁ k₂ n₂ stored₁ stored₂ same := by
    by_cases first : k₁ = k
    · subst first
      rw [set.stored, Option.some.injEq] at stored₁
      by_contra apart
      rw [set.others k₂ (Ne.symm apart)] at stored₂
      exact set.other_ptr keys (Ne.symm apart) stored₂ (stored₁ ▸ same.symm)
    · rw [set.others k₁ first] at stored₁
      by_cases second : k₂ = k
      · subst second
        rw [set.stored, Option.some.injEq] at stored₂
        exact absurd (stored₂ ▸ same) (set.other_ptr keys first stored₁)
      · rw [set.others k₂ second] at stored₂
        exact keys.pointers k₁ n₁ k₂ n₂ stored₁ stored₂ same
  fresh k' other stored := by
    by_cases same : k' = k
    · subst same
      rw [set.stored, Option.some.injEq] at stored
      rw [← stored]
      rcases set.pointer with ⟨old, before, oldPtr⟩ | ⟨-, atNext, grown⟩
      · rw [← oldPtr]
        exact Nat.lt_of_lt_of_le (keys.fresh k' old before) set.next
      · rw [atNext]
        exact grown
    · rw [set.others k' same] at stored
      exact Nat.lt_of_lt_of_le (keys.fresh k' other stored) set.next

theorem finite_ne (set : NodeSet m m' next next' k node) {q : Ptr} (apart : q ≠ node.ptr) :
    FinitePrefix m' q ↔ FinitePrefix m q := by
  constructor
  · rintro ⟨k', other, stored, rfl, finite⟩
    have away : k' ≠ k := by
      rintro rfl
      rw [set.stored, Option.some.injEq] at stored
      exact apart (stored ▸ rfl)
    exact ⟨k', other, set.others k' away ▸ stored, rfl, finite⟩
  · rintro ⟨k', other, stored, rfl, finite⟩
    have away : k' ≠ k := by
      rintro rfl
      rcases set.pointer with ⟨old, before, oldPtr⟩ | ⟨missing, -, -⟩
      · rw [before, Option.some.injEq] at stored
        exact apart (stored ▸ oldPtr)
      · rw [missing] at stored
        cases stored
    exact ⟨k', other, (set.others k' away).trans stored, rfl, finite⟩

theorem finite_self (set : NodeSet m m' next next' k node) (keys : PrefixKeys m next) :
    FinitePrefix m' node.ptr ↔ node.entry.advValidLifetime ≠ validLifetimeInfinity := by
  constructor
  · rintro ⟨k', other, stored, same, finite⟩
    have equal := (set.keys keys).pointers k' other k node stored set.stored same
    rw [equal, set.stored, Option.some.injEq] at stored
    exact stored ▸ finite
  · exact fun finite => ⟨k, node, set.stored, rfl, finite⟩

end NodeSet

namespace IPv6CDS

theorem prefixAt_eq_some {cds : IPv6CDS} {next p : Ptr} {pe : PrefixEntry} (keys : PrefixKeys cds.prefixList next) :
    cds.prefixAt p = some pe ↔ ∃ (k : IPv6Address) (node : PrefixNode),
        cds.prefixList[k]? = some node ∧ node.ptr = p ∧ node.entry = pe := by
  constructor
  · intro found
    obtain ⟨⟨k, node⟩, first, same⟩ := Option.map_eq_some_iff.mp found
    obtain ⟨pointer, stored, -⟩ := StdMap.find?_toList_eq_some _ first
    exact ⟨k, node, stored, of_decide_eq_true pointer, same⟩
  · rintro ⟨k, node, stored, rfl, rfl⟩
    cases first : cds.prefixList.toList.find? (·.2.ptr = node.ptr) with
    | none =>
        have apart := (StdMap.find?_toList_eq_none _).mp first k node stored
        simp at apart
    | some other =>
        obtain ⟨pointer, stored', -⟩ := StdMap.find?_toList_eq_some _ first
        have equal := keys.pointers _ _ _ _ stored' stored (of_decide_eq_true pointer)
        rw [equal, stored, Option.some.injEq] at stored'
        rw [prefixAt, first, Option.map_some, stored']

theorem prefixAt_isSome {cds : IPv6CDS} {next p : Ptr} (keys : PrefixKeys cds.prefixList next) :
    (cds.prefixAt p).isSome = true ↔
      ∃ (k : IPv6Address) (node : PrefixNode), cds.prefixList[k]? = some node ∧ node.ptr = p := by
  rw [Option.isSome_iff_exists]
  constructor
  · rintro ⟨pe, found⟩
    obtain ⟨k, node, stored, pointer, -⟩ := (prefixAt_eq_some keys).mp found
    exact ⟨k, node, stored, pointer⟩
  · rintro ⟨k, node, stored, pointer⟩
    exact ⟨_, (prefixAt_eq_some keys).mpr ⟨k, node, stored, pointer, rfl⟩⟩

theorem setAdvValidLifetime_nodeSet {cds : IPv6CDS} {next : Ptr} {k : IPv6Address}
    {node : PrefixNode} (keys : PrefixKeys cds.prefixList next)
    (stored : cds.prefixList[k]? = some node) (lifetime : BitVec 32) :
    NodeSet cds.prefixList (cds.setAdvValidLifetime node.ptr lifetime).prefixList next next k
      { node with entry := { node.entry with advValidLifetime := lifetime } } where
  stored := by
    simp [setAdvValidLifetime, stored]
  others k' apart := by
    cases other : cds.prefixList[k']? with
    | none => simp [setAdvValidLifetime, other]
    | some found =>
        have away : found.ptr ≠ node.ptr :=
          fun same => apart (keys.pointers _ _ _ _ other stored same)
        simp [setAdvValidLifetime, other, away]
  key := keys.key k node stored
  pointer := Or.inl ⟨node, stored, rfl⟩
  next := Nat.le_refl _

theorem insertPrefixEntry_nodeSet (cds : IPv6CDS) (pe : PrefixEntry) (ifIndex : Nat) :
    NodeSet cds.prefixList (cds.insertPrefixEntry pe ifIndex).2.prefixList cds.next
      (cds.insertPrefixEntry pe ifIndex).2.next pe.prefixAddr
      ⟨(cds.insertPrefixEntry pe ifIndex).1, pe, ifIndex⟩ := by
  unfold insertPrefixEntry getPrefixEntry
  cases found : cds.prefixList[pe.prefixAddr]? with
  | some node =>
      exact ⟨StdMap.getElem?_insert_self, fun k' apart => StdMap.getElem?_insert_ne (Ne.symm apart),
        rfl, Or.inl ⟨node, found, rfl⟩, Nat.le_refl _⟩
  | none =>
      exact ⟨StdMap.getElem?_insert_self, fun k' apart => StdMap.getElem?_insert_ne (Ne.symm apart),
        rfl, Or.inr ⟨found, rfl, Nat.lt_succ_self _⟩, Nat.le_succ _⟩

end IPv6CDS

theorem PrefixKeys.erase {m : PrefixMap} {next : Ptr} (keys : PrefixKeys m next)
    (k : IPv6Address) : PrefixKeys (m.erase k) next := by
  have kept : ∀ (k' : IPv6Address) (node : PrefixNode), (m.erase k)[k']? = some node →
      m[k']? = some node := by
    intro k' node stored
    by_cases same : k = k'
    · subst same
      rw [StdMap.getElem?_erase_self] at stored
      cases stored
    · rwa [StdMap.getElem?_erase_ne same] at stored
  exact ⟨fun k' node stored => keys.key k' node (kept k' node stored),
    fun k₁ n₁ k₂ n₂ stored₁ stored₂ =>
      keys.pointers k₁ n₁ k₂ n₂ (kept k₁ n₁ stored₁) (kept k₂ n₂ stored₂),
    fun k' node stored => keys.fresh k' node (kept k' node stored)⟩

theorem finitePrefix_erase {m : PrefixMap} {next : Ptr} (keys : PrefixKeys m next)
    {k : IPv6Address} {node : PrefixNode} (stored : m[k]? = some node) {q : Ptr} :
    FinitePrefix (m.erase k) q ↔ q ≠ node.ptr ∧ FinitePrefix m q := by
  constructor
  · rintro ⟨k', other, stored', rfl, finite⟩
    by_cases same : k = k'
    · subst same
      rw [StdMap.getElem?_erase_self] at stored'
      cases stored'
    · rw [StdMap.getElem?_erase_ne same] at stored'
      exact ⟨fun equal => same (keys.pointers _ _ _ _ stored stored' equal.symm),
        k', other, stored', rfl, finite⟩
  · rintro ⟨apart, k', other, stored', rfl, finite⟩
    have away : k ≠ k' := by
      rintro rfl
      rw [stored, Option.some.injEq] at stored'
      exact apart (stored' ▸ rfl)
    exact ⟨k', other, (StdMap.getElem?_erase_ne away).trans stored', rfl, finite⟩

end IPv6Suite
