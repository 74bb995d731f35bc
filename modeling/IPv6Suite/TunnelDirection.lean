import IPv6Suite.TunnelTable

namespace IPv6Suite

open Lib

namespace IPv6CDS

/-- Every pointer is to an object that was allocated before. -/
structure Allocated (cds : IPv6CDS) : Prop where
  routers : ∀ r ∈ cds.routers, r.1 < cds.next
  neighbours : ∀ (addr : Ipv6Addr) (e : Ptr × NeighbourEntry),
    cds.neighbourCache[addr]? = some e → e.1 < cds.next
  held : ∀ e ∈ cds.held, e.1 < cds.next
  destinations : ∀ (key : IPv6Address) (de : DestinationEntry) (p : Ptr),
    cds.destCache[key]? = some de → de.neighbour = some p → p < cds.next

/-- The interface of the live neighbour that a destination has -/
def via (cds : IPv6CDS) (key : IPv6Address) : Option Nat :=
  (cds.destCache[key]?).bind fun de => (cds.lock de.neighbour).map (·.interfaceNo)

variable {cds : IPv6CDS} {p q : Ptr} {weak : Option Ptr} {ne : NeighbourEntry} {k : Nat}
  {key other : IPv6Address}

theorem via_eq_some : cds.via key = some k ↔ ∃ de ne, cds.destCache[key]? = some de ∧
    cds.lock de.neighbour = some ne ∧ ne.interfaceNo = k := by
  unfold via
  simp only [Option.bind_eq_some_iff, Option.map_eq_some_iff]
  constructor
  · rintro ⟨de, found, ne, live, number⟩
    exact ⟨de, ne, found, live, number⟩
  · rintro ⟨de, ne, found, live, number⟩
    exact ⟨de, found, ne, live, number⟩

theorem Allocated.deref_lt (allocated : cds.Allocated) (live : cds.deref p = some ne) : p < cds.next := by
  unfold deref at live
  rw [Option.or_eq_some_iff, Option.or_eq_some_iff] at live
  simp only [Option.map_eq_some_iff] at live
  rcases live with ⟨r, router, -⟩ | ⟨-, ⟨e, cached, -⟩ | ⟨-, e, held, -⟩⟩
  · have same := List.find?_some router
    exact of_decide_eq_true same ▸ allocated.routers r (List.mem_of_find?_eq_some router)
  · obtain ⟨same, stored, -⟩ := StdMap.find?_toList_eq_some _ cached
    exact of_decide_eq_true same ▸ allocated.neighbours e.1 e.2 stored
  · have same := List.find?_some held
    exact of_decide_eq_true same ▸ allocated.held e (List.mem_of_find?_eq_some held)

theorem deref_release_ne (apart : q ≠ p) : (cds.release p).deref q = cds.deref q := by
  have held : ∀ entries : List (Ptr × NeighbourEntry),
      (entries.filter (·.1 ≠ p)).find? (·.1 = q) = entries.find? (·.1 = q) := by
    intro entries
    rw [List.find?_filter]
    refine congrArg (List.find? · entries) (funext fun e => ?_)
    by_cases same : e.1 = q
    · simp [same, apart]
    · simp [same]
  unfold deref release
  rw [held]

theorem deref_release_self : (cds.release p).deref p = some ne → cds.deref p = some ne := by
  have dropped : (cds.held.filter (·.1 ≠ p)).find? (·.1 = p) = none := by
    rw [List.find?_eq_none]
    intro e inside same
    have apart := of_decide_eq_true (List.mem_filter.mp inside).2
    exact apart (of_decide_eq_true same)
  unfold deref release
  rw [dropped]
  intro found
  rw [Option.or_eq_some_iff, Option.or_eq_some_iff] at found ⊢
  rcases found with router | ⟨noRouter, cached | ⟨-, impossible⟩⟩
  · exact .inl router
  · exact .inr ⟨noRouter, .inl cached⟩
  · cases impossible

theorem deref_release (live : (cds.release p).deref q = some ne) : cds.deref q = some ne := by
  by_cases same : q = p
  · subst same
    exact deref_release_self live
  · rwa [deref_release_ne same] at live

theorem lock_release (live : (cds.release p).lock weak = some ne) : cds.lock weak = some ne := by
  obtain ⟨q, rfl, found⟩ := Option.bind_eq_some_iff.mp live
  exact deref_release found

theorem deref_hold_ne (apart : q ≠ cds.next) : (cds.hold ne).deref q = cds.deref q := by
  unfold deref hold
  rw [List.find?_cons_of_neg]
  exact fun same => apart (of_decide_eq_true same).symm

theorem deref_hold_self (allocated : cds.Allocated) : (cds.hold ne).deref cds.next = some ne := by
  have noRouter : cds.routers.find? (·.1 = cds.next) = none := by
    rw [List.find?_eq_none]
    intro r inside same
    exact Nat.ne_of_lt (allocated.routers r inside) (of_decide_eq_true same)
  have noNeighbour : cds.neighbourCache.toList.find? (·.2.1 = cds.next) = none := by
    rw [StdMap.find?_toList_eq_none]
    intro addr e stored
    exact decide_eq_false (Nat.ne_of_lt (allocated.neighbours addr e stored))
  have newest : ((cds.next, ne) :: cds.held).find? (·.1 = cds.next) = some (cds.next, ne) :=
    List.find?_cons_of_pos (decide_eq_true rfl)
  unfold deref hold
  dsimp only
  rw [noRouter, noNeighbour, newest]
  rfl

theorem Allocated.hold (allocated : cds.Allocated) : (cds.hold ne).Allocated where
  routers r inside := Nat.lt_succ_of_lt (allocated.routers r inside)
  neighbours addr e stored := Nat.lt_succ_of_lt (allocated.neighbours addr e stored)
  held e inside := by
    rcases List.mem_cons.mp inside with rfl | old
    · exact Nat.lt_succ_self _
    · exact Nat.lt_succ_of_lt (allocated.held e old)
  destinations key de q stored points :=
    Nat.lt_succ_of_lt (allocated.destinations key de q stored points)

theorem via_hold (allocated : cds.Allocated) : (cds.hold ne).via key = cds.via key := by
  have lock : ∀ de, cds.destCache[key]? = some de →
      (cds.hold ne).lock de.neighbour = cds.lock de.neighbour := by
    intro de stored
    cases points : de.neighbour with
    | none => rfl
    | some p =>
        have below := allocated.destinations key de p stored points
        exact deref_hold_ne (Nat.ne_of_lt below)
  unfold via
  change (cds.destCache[key]?).bind _ = _
  cases stored : cds.destCache[key]? with
  | none => rfl
  | some de => exact congrArg (Option.map (·.interfaceNo)) (lock de stored)

theorem via_setNeighbour (live : cds.deref p = some ne) : (cds.setNeighbour key p).via other =
    if key = other then some ne.interfaceNo else cds.via other := by
  unfold via setNeighbour
  dsimp only
  split
  · rename_i same
    rw [← same, StdMap.getElem?_insert_self]
    exact congrArg (Option.map (·.interfaceNo)) live
  · rename_i apart
    rw [StdMap.getElem?_insert_ne apart]
    rfl

theorem Allocated.setNeighbour (allocated : cds.Allocated) (dest : IPv6Address)
    (below : p < cds.next) : (cds.setNeighbour dest p).Allocated where
  routers := allocated.routers
  neighbours := allocated.neighbours
  held := allocated.held
  destinations key de q stored points := by
    by_cases same : dest = key
    · subst same
      unfold IPv6CDS.setNeighbour at stored
      rw [StdMap.getElem?_insert_self] at stored
      cases stored
      cases points
      exact below
    · unfold IPv6CDS.setNeighbour at stored
      rw [StdMap.getElem?_insert_ne same] at stored
      exact allocated.destinations key de q stored points

theorem Allocated.release (allocated : cds.Allocated) : (cds.release p).Allocated where
  routers := allocated.routers
  neighbours := allocated.neighbours
  held e inside := allocated.held e (List.mem_filter.mp inside).1
  destinations := allocated.destinations

theorem destCache_removeDestEntryByTunnel (vIfIndex : Nat) (key : IPv6Address) :
    (cds.removeDestEntryByTunnel vIfIndex).destCache[key]? = (cds.destCache[key]?).filter fun de =>
      (cds.lock de.neighbour).any (·.interfaceNo ≠ vIfIndex % 2 ^ 32) :=
  Std.TreeMap.getElem?_filter'

theorem Allocated.removeDestEntryByTunnel (allocated : cds.Allocated) (vIfIndex : Nat) :
    (cds.removeDestEntryByTunnel vIfIndex).Allocated where
  routers := allocated.routers
  neighbours := allocated.neighbours
  held := allocated.held
  destinations key de q stored points := by
    rw [destCache_removeDestEntryByTunnel] at stored
    exact allocated.destinations key de q (Option.filter_eq_some_iff.mp stored).1 points

end IPv6CDS

namespace IPv6Encapsulation

def ends (s : IPv6Encapsulation) (k : Nat) : Option (Ipv6Addr × Ipv6Addr) :=
  (s.tunnels[k]?).map fun tun => (tun.entry, tun.exit)

/-- The neighbour entry of a tunnel has the index of the tunnel, which is an `unsigned int`. -/
structure Linked (s : IPv6Encapsulation) : Prop where
  indexed : s.Indexed
  allocated : s.cds.Allocated
  short : s.vIfIndexTop < 2 ^ 32 ∧ ∀ k ∈ s.tunnels, k < 2 ^ 32
  owns : ∀ (k : Nat) (tun : Tunnel) (p : Ptr), s.tunnels[k]? = some tun → tun.ne = some p →
    ∃ ne, s.cds.deref p = some ne ∧ ne.interfaceNo = k

variable {s : IPv6Encapsulation} {j k : Nat} {key other : IPv6Address} {tun : Tunnel}
  {src dest : Ipv6Addr}

theorem ends_eq_some : s.ends k = some (src, dest) ↔
    ∃ tun, s.tunnels[k]? = some tun ∧ tun.entry = src ∧ tun.exit = dest := by
  unfold ends
  rw [Option.map_eq_some_iff]
  simp only [Prod.mk.injEq]

theorem mem_of_ends (stored : s.ends k = some (src, dest)) : k ∈ s.tunnels := by
  obtain ⟨tun, found, -⟩ := ends_eq_some.mp stored
  exact StdMap.mem_iff_exists.mpr ⟨tun, found⟩

theorem Indexed.ends_unique (indexed : s.Indexed) (first : s.ends j = some (src, dest))
    (second : s.ends k = some (src, dest)) : j = k := by
  obtain ⟨t, found, entry, exit⟩ := ends_eq_some.mp first
  obtain ⟨u, found', entry', exit'⟩ := ends_eq_some.mp second
  exact indexed.endpoints j k t u found found' (entry.trans entry'.symm) (exit.trans exit'.symm)

theorem Indexed.via_mem (indexed : s.Indexed) (directed : s.cds.via key = some k)
    (virtual : s.curHopLimits.length ≤ k) : k ∈ s.tunnels := by
  obtain ⟨de, ne, -, live, rfl⟩ := IPv6CDS.via_eq_some.mp directed
  exact interfaceNo_mem indexed live virtual

theorem Indexed.top_notMem (indexed : s.Indexed) : s.vIfIndexTop ∉ s.tunnels :=
  fun inside => absurd (indexed.numbered _ inside).1 (Nat.lt_irrefl _)

theorem Indexed.zero_notMem (indexed : s.Indexed) : 0 ∉ s.tunnels :=
  fun inside => absurd (indexed.numbered 0 inside).1 (Nat.not_lt_zero _)

/-! ### A new tunnel -/

theorem cds_withTunnel (indexed : s.Indexed) : (s.withTunnel tun).cds = s.cds := by
  have absent : s.tunnels[s.vIfIndexTop]? = none :=
    Std.TreeMap.getElem?_eq_none indexed.top_notMem
  change (s.dropTunnel s.vIfIndexTop).cds = s.cds
  unfold dropTunnel
  rw [absent]
  rfl

theorem tunnels_withTunnel (indexed : s.Indexed) : (s.withTunnel tun).tunnels[j]? =
    if s.vIfIndexTop = j then some tun else s.tunnels[j]? := by
  change ((s.dropTunnel s.vIfIndexTop).tunnels.insert s.vIfIndexTop tun)[j]? = _
  split
  · rename_i same
    rw [← same, StdMap.getElem?_insert_self]
  · rename_i apart
    rw [StdMap.getElem?_insert_ne apart, dropTunnel_absent indexed.top_notMem]

theorem ends_withTunnel (indexed : s.Indexed) : (s.withTunnel tun).ends j =
    if s.vIfIndexTop = j then some (tun.entry, tun.exit) else s.ends j := by
  unfold ends
  rw [tunnels_withTunnel indexed]
  split
  · rfl
  · rfl

theorem Linked.withTunnel (linked : s.Linked) (left : s.curHopLimits.length ≤ s.vIfIndexTop)
    (positive : 0 < s.vIfIndexTop) (unowned : tun.ne = none)
    (new : ∀ k, s.ends k ≠ some (tun.entry, tun.exit)) : (s.withTunnel tun).Linked where
  indexed := by
    refine linked.indexed.withTunnel left positive fun k t stored same => ?_
    exact new k (ends_eq_some.mpr ⟨t, stored, same⟩)
  allocated := by
    rw [cds_withTunnel linked.indexed]
    exact linked.allocated
  short := by
    have below := sizePred_lt positive linked.indexed.bounded
    refine ⟨Nat.lt_trans below linked.short.1, fun k inside => ?_⟩
    rcases StdMap.mem_insert.mp inside with rfl | old
    · exact linked.short.1
    · exact linked.short.2 k (StdMap.mem_erase.mp old).2
  owns k t p stored owner := by
    rw [tunnels_withTunnel linked.indexed] at stored
    rw [cds_withTunnel linked.indexed]
    split at stored
    · cases stored
      rw [unowned] at owner
      cases owner
    · exact linked.owns k t p stored owner

/-! ### A destination directed into a tunnel -/

theorem tunnelDestination_owned {p : Ptr} (stored : s.tunnels[k]? = some tun) (owner : tun.ne = some p) :
    (s.tunnelDestination key k).2 = { s with cds := s.cds.setNeighbour key p } := by
  unfold IPv6Encapsulation.tunnelDestination
  rw [stored]
  dsimp only
  rw [owner]

theorem tunnelDestination_unowned (stored : s.tunnels[k]? = some tun) (owner : tun.ne = none) :
    (s.tunnelDestination key k).2 =
      { s with
        cds := (s.cds.hold ⟨tun.entry, "", k, false, .reachable⟩).setNeighbour key s.cds.next
        tunnels := s.tunnels.insert k { tun with ne := some s.cds.next } } := by
  unfold IPv6Encapsulation.tunnelDestination
  rw [stored]
  dsimp only
  rw [owner]

theorem via_tunnelDestination (linked : s.Linked) (inside : k ∈ s.tunnels) :
    (s.tunnelDestination key k).2.cds.via other = if key = other then some k else s.cds.via other := by
  obtain ⟨tun, stored⟩ := StdMap.mem_iff_exists.mp inside
  cases owner : tun.ne with
  | some p =>
      obtain ⟨ne, live, number⟩ := linked.owns k tun p stored owner
      rw [tunnelDestination_owned stored owner, ← number]
      exact IPv6CDS.via_setNeighbour live
  | none =>
      rw [tunnelDestination_unowned stored owner]
      have live : (s.cds.hold ⟨tun.entry, "", k, false, .reachable⟩).deref s.cds.next =
          some ⟨tun.entry, "", k, false, .reachable⟩ :=
        IPv6CDS.deref_hold_self linked.allocated
      refine (IPv6CDS.via_setNeighbour live).trans ?_
      rw [IPv6CDS.via_hold linked.allocated]

theorem ends_tunnelDestination : (s.tunnelDestination key k).2.ends j = s.ends j := by
  unfold IPv6Encapsulation.tunnelDestination
  split
  · rfl
  · rename_i tun stored
    split
    · rfl
    · unfold ends
      dsimp only
      by_cases same : k = j
      · subst same
        rw [StdMap.getElem?_insert_self, stored]
        rfl
      · rw [StdMap.getElem?_insert_ne same]

theorem Linked.tunnelDestination (linked : s.Linked) (inside : k ∈ s.tunnels) :
    (s.tunnelDestination key k).2.Linked where
  indexed := linked.indexed.tunnelDestination key k
  allocated := by
    obtain ⟨tun, stored⟩ := StdMap.mem_iff_exists.mp inside
    cases owner : tun.ne with
    | some p =>
        obtain ⟨ne, live, -⟩ := linked.owns k tun p stored owner
        rw [tunnelDestination_owned stored owner]
        exact linked.allocated.setNeighbour key (linked.allocated.deref_lt live)
    | none =>
        rw [tunnelDestination_unowned stored owner]
        exact linked.allocated.hold.setNeighbour key (Nat.lt_succ_self _)
  short := by
    rw [(tunnelDestination_frame key k).1]
    refine ⟨linked.short.1, fun j present => ?_⟩
    exact linked.short.2 j (tunnelDestination_mem.mp present)
  owns := by
    obtain ⟨tun, stored⟩ := StdMap.mem_iff_exists.mp inside
    cases owner : tun.ne with
    | some p =>
        rw [tunnelDestination_owned stored owner]
        exact linked.owns
    | none =>
        rw [tunnelDestination_unowned stored owner]
        intro j t p found points
        dsimp only at found ⊢
        by_cases same : k = j
        · subst same
          rw [StdMap.getElem?_insert_self] at found
          cases found
          cases points
          exact ⟨_, IPv6CDS.deref_hold_self linked.allocated, rfl⟩
        · rw [StdMap.getElem?_insert_ne same] at found
          obtain ⟨ne, live, number⟩ := linked.owns j t p found points
          have old := Nat.ne_of_lt (linked.allocated.deref_lt live)
          exact ⟨ne, (IPv6CDS.deref_hold_ne old).trans live, number⟩

/-! ### A tunnel that goes -/

def withoutTunnel (s : IPv6Encapsulation) (k : Nat) : IPv6Encapsulation :=
  { s.dropTunnel k with cds := (s.dropTunnel k).cds.removeDestEntryByTunnel k }

theorem cds_dropTunnel (s : IPv6Encapsulation) (k : Nat) :
    (s.dropTunnel k).cds = s.cds ∨ ∃ tun p, s.tunnels[k]? = some tun ∧ tun.ne = some p ∧
      (s.dropTunnel k).cds = s.cds.release p := by
  unfold dropTunnel
  dsimp only
  split
  · rename_i p owner
    obtain ⟨tun, stored, points⟩ := Option.bind_eq_some_iff.mp owner
    exact .inr ⟨tun, p, stored, points, rfl⟩
  · exact .inl rfl

theorem destCache_dropTunnel : (s.dropTunnel k).cds.destCache = s.cds.destCache := by
  rcases cds_dropTunnel s k with same | ⟨tun, p, -, -, released⟩
  · rw [same]
  · rw [released]
    rfl

theorem lock_dropTunnel {weak : Option Ptr} {ne : NeighbourEntry}
    (live : (s.dropTunnel k).cds.lock weak = some ne) : s.cds.lock weak = some ne := by
  rcases cds_dropTunnel s k with same | ⟨tun, p, -, -, released⟩
  · rwa [same] at live
  · rw [released] at live
    exact IPv6CDS.lock_release live

theorem Linked.deref_dropTunnel (linked : s.Linked) {q : Ptr} {ne : NeighbourEntry}
    (live : s.cds.deref q = some ne) (apart : ne.interfaceNo ≠ k) : (s.dropTunnel k).cds.deref q = some ne := by
  rcases cds_dropTunnel s k with same | ⟨tun, p, stored, owner, released⟩
  · rwa [same]
  · obtain ⟨owned, found, number⟩ := linked.owns k tun p stored owner
    rw [released, IPv6CDS.deref_release_ne, live]
    rintro rfl
    rw [live] at found
    cases found
    exact apart number

theorem via_withoutTunnel (linked : s.Linked) (inside : k ∈ s.tunnels) :
    (s.withoutTunnel k).cds.via key = some j ↔ s.cds.via key = some j ∧ j ≠ k := by
  have modulo : k % 2 ^ 32 = k := Nat.mod_eq_of_lt (linked.short.2 k inside)
  rw [IPv6CDS.via_eq_some, IPv6CDS.via_eq_some]
  change (∃ de ne, ((s.dropTunnel k).cds.removeDestEntryByTunnel k).destCache[key]? = some de ∧
    (s.dropTunnel k).cds.lock de.neighbour = some ne ∧ ne.interfaceNo = j) ↔ _
  simp only [IPv6CDS.destCache_removeDestEntryByTunnel, destCache_dropTunnel, modulo,
    Option.filter_eq_some_iff]
  constructor
  · rintro ⟨de, ne, ⟨stored, kept⟩, live, number⟩
    refine ⟨⟨de, ne, stored, lock_dropTunnel live, number⟩, ?_⟩
    rw [live] at kept
    exact number ▸ of_decide_eq_true kept
  · rintro ⟨⟨de, ne, stored, live, number⟩, apart⟩
    obtain ⟨q, points, found⟩ := Option.bind_eq_some_iff.mp live
    have still : (s.dropTunnel k).cds.lock de.neighbour = some ne := by
      rw [points]
      exact linked.deref_dropTunnel found (number ▸ apart)
    refine ⟨de, ne, ⟨stored, ?_⟩, still, number⟩
    rw [still]
    exact decide_eq_true (number ▸ apart)

theorem ends_withoutTunnel :
    (s.withoutTunnel k).ends j = if k = j then none else s.ends j := by
  unfold ends
  change ((s.tunnels.erase k)[j]?).map _ = _
  split
  · rename_i same
    rw [← same, StdMap.getElem?_erase_self]
    rfl
  · rename_i apart
    rw [StdMap.getElem?_erase_ne apart]

theorem Linked.withoutTunnel (linked : s.Linked) : (s.withoutTunnel k).Linked where
  indexed := (linked.indexed.dropTunnel k).removeDestEntryByTunnel k
  allocated := by
    refine IPv6CDS.Allocated.removeDestEntryByTunnel ?_ k
    rcases cds_dropTunnel s k with same | ⟨tun, p, -, -, released⟩
    · rw [same]
      exact linked.allocated
    · rw [released]
      exact linked.allocated.release
  short := ⟨linked.short.1, fun j present => linked.short.2 j (StdMap.mem_erase.mp present).2⟩
  owns := by
    intro j t p found points
    have apart : k ≠ j := by
      rintro rfl
      cases StdMap.getElem?_erase_self.symm.trans found
    have stored := (StdMap.getElem?_erase_ne apart).symm.trans found
    obtain ⟨ne, live, number⟩ := linked.owns j t p stored points
    exact ⟨ne, linked.deref_dropTunnel live fun same => apart (same.symm.trans number), number⟩

theorem destroyTunnelAt_mem (inside : k ∈ s.tunnels) : s.destroyTunnelAt k = (true, s.withoutTunnel k) := by
  obtain ⟨tun, stored⟩ := StdMap.mem_iff_exists.mp inside
  unfold destroyTunnelAt
  rw [stored]
  rfl

/-! ### The search for a tunnel -/

theorem findTunnel_ends (indexed : s.Indexed) (specified : dest ≠ .unspecified)
    (entry : src ≠ .unspecified) (search : s.findTunnel src dest = .ok k) :
    (k = 0 ∧ ∀ j, s.ends j ≠ some (src, dest)) ∨ s.ends k = some (src, dest) := by
  by_cases missing : k = 0
  · subst missing
    refine .inl ⟨rfl, fun j stored => ?_⟩
    obtain ⟨tun, found, same⟩ := ends_eq_some.mp stored
    exact findTunnel_none search indexed.zero_notMem j tun found same
  · unfold findTunnel at search
    rw [if_neg entry] at search
    obtain ⟨_, -, search⟩ := bind_eq_ok.mp search
    rw [if_neg specified] at search
    obtain ⟨tun, found, selected⟩ := findFirst_eq (Except.ok.inj search) missing
    exact .inr (ends_eq_some.mpr ⟨tun, found, of_decide_eq_true selected⟩)

variable {s' : IPv6Encapsulation}

theorem destroyTunnel_ends {destroyed : Bool} (indexed : s.Indexed)
    (specified : dest ≠ .unspecified) (entry : src ≠ .unspecified) (stored : s.ends k = some (src, dest))
    (destroys : s.destroyTunnel src dest = .ok (destroyed, s')) : s' = s.withoutTunnel k := by
  obtain ⟨found, search, rest⟩ := bind_eq_ok.mp destroys
  rcases findTunnel_ends indexed specified entry search with ⟨-, absent⟩ | here
  · exact absurd stored (absent k)
  · have same := indexed.ends_unique here stored
    have positive : found ≠ 0 := fun zero => indexed.zero_notMem (zero ▸ mem_of_ends here)
    rw [if_neg positive] at rest
    cases rest
    rw [same]
    rfl

/-! ### A tunnel that is found or created -/

variable {localDeliver : Ipv6Addr → Bool} {forOnePkt : Bool}

theorem createTunnel_untriggered {ifIndex : Nat} (apart : ¬ (localDeliver src = true ∧ localDeliver dest = true))
    (creates : s.createTunnel localDeliver src dest ifIndex .unspecified forOnePkt = .ok (k, s')) :
    k = s.vIfIndexTop ∧ s' = s.withTunnel { entry := src, exit := dest, ifIndex, forOnePkt } := by
  obtain ⟨found, -, rest⟩ := bind_eq_ok.mp creates
  obtain ⟨_, -, rest⟩ := bind_eq_ok.mp rest
  rw [if_neg apart] at rest
  cases rest
  exact ⟨rfl, rfl⟩

/-- The module has the tunnel `k`, and what it had before. -/
structure Opens (s s' : IPv6Encapsulation) (src dest : Ipv6Addr) (k : Nat) : Prop where
  linked : s'.Linked
  ends : s'.ends k = some (src, dest)
  others : ∀ j pair, s.ends j = some pair → s'.ends j = some pair
  via : ∀ key, s'.cds.via key = s.cds.via key
  interfaces : s'.curHopLimits = s.curHopLimits

theorem Linked.opens (linked : s.Linked)
    {ifIndex found : Nat} (specified : dest ≠ .unspecified)
    (entry : src ≠ .unspecified) (search : s.findTunnel src dest = .ok found)
    (room : (∃ k, s.ends k = some (src, dest)) ∨
      ¬ (localDeliver src = true ∧ localDeliver dest = true) ∧
        s.curHopLimits.length ≤ s.vIfIndexTop ∧ 0 < s.vIfIndexTop)
    (opened : (if found = 0 then
      s.createTunnel localDeliver src dest ifIndex .unspecified forOnePkt
      else .ok (found, s)) = .ok (k, s')) : Opens s s' src dest k := by
  rcases findTunnel_ends linked.indexed specified entry search with ⟨rfl, absent⟩ | here
  · rw [if_pos rfl] at opened
    obtain ⟨j, stored⟩ | ⟨apart, left, positive⟩ := room
    · exact absurd stored (absent j)
    obtain ⟨rfl, rfl⟩ := createTunnel_untriggered apart opened
    refine ⟨linked.withTunnel left positive rfl absent, ?_, ?_, ?_, rfl⟩
    · rw [ends_withTunnel linked.indexed, if_pos rfl]
    · intro j pair stored
      have old : s.vIfIndexTop ≠ j := by
        rintro rfl
        obtain ⟨tun, found, -⟩ := Option.map_eq_some_iff.mp stored
        exact linked.indexed.top_notMem (StdMap.mem_iff_exists.mpr ⟨tun, found⟩)
      rw [ends_withTunnel linked.indexed, if_neg old]
      exact stored
    · intro key
      rw [cds_withTunnel linked.indexed]
  · have positive : found ≠ 0 := fun zero => linked.indexed.zero_notMem (zero ▸ mem_of_ends here)
    rw [if_neg positive] at opened
    cases opened
    exact ⟨linked, here, fun _ _ => id, fun _ => rfl, rfl⟩

end IPv6Encapsulation

end IPv6Suite
