import IPv6Suite.IPv6Encapsulation

namespace IPv6Suite

open Lib

/-- A call of the module or a packet for one of its tunnels. Whether an address is one of
the node itself is looked up at the call. -/
inductive TunnelOp where
  | createTunnel (localDeliver : Ipv6Addr → Bool) (src dest : Ipv6Addr) (ifIndex : Nat)
      (destTrigger : Ipv6Addr) (forOnePkt : Bool)
  | tunnelDestination (dest : IPv6Address) (vIfIndex : Nat)
  | destroyTunnel (src dest : Ipv6Addr)
  | destroyTunnelAt (vIfIndex : Nat)
  | encapsulate (dgram : IPv6Datagram) (encapLimit : Int)

/-- The module with the indices that `createTunnel` has returned, the latest first. -/
structure TunnelHistory where
  module : IPv6Encapsulation
  created : List Nat

namespace TunnelHistory

def step (h : TunnelHistory) : TunnelOp → Exec TunnelHistory
  | .createTunnel localDeliver src dest ifIndex destTrigger forOnePkt => do
      let (index, module) ← h.module.createTunnel localDeliver src dest ifIndex destTrigger forOnePkt
      return ⟨module, if index = 0 then h.created else index :: h.created⟩
  | .tunnelDestination dest vIfIndex =>
      .ok { h with module := (h.module.tunnelDestination dest vIfIndex).2 }
  | .destroyTunnel src dest => do
      let (_, module) ← h.module.destroyTunnel src dest
      return { h with module }
  | .destroyTunnelAt vIfIndex => .ok { h with module := (h.module.destroyTunnelAt vIfIndex).2 }
  | .encapsulate dgram encapLimit => do
      let module ← h.module.encapsulate dgram encapLimit
      return { h with module }

/-- The next index is still that of a virtual interface, above those of the interfaces. -/
def IndexLeft (h : TunnelHistory) : TunnelOp → Prop
  | .createTunnel .. =>
      h.module.curHopLimits.length ≤ h.module.vIfIndexTop ∧ 0 < h.module.vIfIndexTop
  | _ => True

/-- Indices of tunnels are not reused, endpoints not shared, and no destination is left
with the neighbour of a tunnel that is gone. -/
structure Consistent (h : TunnelHistory) : Prop where
  unused : h.created.Nodup
  numbered : ∀ k ∈ h.module.tunnels, k ∈ h.created ∧ h.module.curHopLimits.length ≤ k
  endpoints : ∀ (j k : Nat) (t u : Tunnel), h.module.tunnels[j]? = some t → h.module.tunnels[k]? = some u →
    t.entry = u.entry → t.exit = u.exit → j = k
  directed : ∀ (key : IPv6Address) (de : DestinationEntry) (ne : NeighbourEntry), h.module.cds.destCache[key]? = some de →
    h.module.cds.lock de.neighbour = some ne → h.module.curHopLimits.length ≤ ne.interfaceNo →
    ne.interfaceNo ∈ h.module.tunnels

end TunnelHistory

/-- The neighbours of a node without tunnels are on its interfaces. -/
structure IPv6CDS.OnInterfaces (n : Nat) (cds : IPv6CDS) : Prop where
  routers : ∀ r ∈ cds.routers, r.2.interfaceNo < n
  neighbours : ∀ (addr : Ipv6Addr) (e : Ptr × NeighbourEntry), cds.neighbourCache[addr]? = some e →
    e.2.interfaceNo < n
  held : ∀ e ∈ cds.held, e.2.interfaceNo < n

namespace IPv6Encapsulation

structure Indexed (s : IPv6Encapsulation) : Prop where
  routers : ∀ r ∈ s.cds.routers, r.2.interfaceNo < s.curHopLimits.length
  neighbours : ∀ (addr : Ipv6Addr) (e : Ptr × NeighbourEntry),
    s.cds.neighbourCache[addr]? = some e → e.2.interfaceNo < s.curHopLimits.length
  owned : ∀ e ∈ s.cds.held, s.curHopLimits.length ≤ e.2.interfaceNo →
    ∃ tun, s.tunnels[e.2.interfaceNo]? = some tun ∧ tun.ne = some e.1
  numbered : ∀ k ∈ s.tunnels, s.vIfIndexTop < k ∧ s.curHopLimits.length ≤ k
  bounded : s.vIfIndexTop < 2 ^ 64
  endpoints : ∀ (j k : Nat) (t u : Tunnel), s.tunnels[j]? = some t → s.tunnels[k]? = some u →
    t.entry = u.entry → t.exit = u.exit → j = k

variable {s s' : IPv6Encapsulation}

theorem interfaceNo_mem (indexed : s.Indexed) {weak : Option Ptr} {ne : NeighbourEntry}
    (live : s.cds.lock weak = some ne) (virtual : s.curHopLimits.length ≤ ne.interfaceNo) :
    ne.interfaceNo ∈ s.tunnels := by
  obtain ⟨p, -, found⟩ := Option.bind_eq_some_iff.mp live
  unfold IPv6CDS.deref at found
  rw [Option.or_eq_some_iff, Option.or_eq_some_iff] at found
  simp only [Option.map_eq_some_iff] at found
  rcases found with ⟨r, router, rfl⟩ | ⟨-, ⟨e, cached, rfl⟩ | ⟨-, e, held, rfl⟩⟩
  · have real := indexed.routers r (List.mem_of_find?_eq_some router)
    omega
  · have stored := (StdMap.find?_toList_eq_some _ cached).2.1
    have real := indexed.neighbours e.1 e.2 stored
    omega
  · obtain ⟨tun, stored, -⟩ := indexed.owned e (List.mem_of_find?_eq_some held) virtual
    exact StdMap.mem_iff_exists.mpr ⟨tun, stored⟩

/-! ### The operations keep the indices -/

theorem Indexed.dropTunnel (indexed : s.Indexed) (key : Nat) : (s.dropTunnel key).Indexed := by
  have erased {j : Nat} {t : Tunnel} (stored : (s.tunnels.erase key)[j]? = some t) :
      s.tunnels[j]? = some t := by
    by_cases same : key = j
    · rw [same, StdMap.getElem?_erase_self] at stored
      cases stored
    · rwa [StdMap.getElem?_erase_ne same] at stored
  refine ⟨?_, ?_, ?_, ?_, indexed.bounded, ?_⟩
  · intro r inside
    refine indexed.routers r ?_
    unfold IPv6Encapsulation.dropTunnel at inside
    dsimp only at inside
    split at inside
    · exact inside
    · exact inside
  · intro addr e stored
    refine indexed.neighbours addr e ?_
    unfold IPv6Encapsulation.dropTunnel at stored
    dsimp only at stored
    split at stored
    · exact stored
    · exact stored
  · intro e inside virtual
    have kept : e ∈ s.cds.held ∧ ∀ tun, s.tunnels[key]? = some tun → tun.ne ≠ some e.1 := by
      unfold IPv6Encapsulation.dropTunnel at inside
      dsimp only at inside
      split at inside
      · rename_i p owner
        obtain ⟨old, apart⟩ := List.mem_filter.mp inside
        refine ⟨old, fun tun stored same => of_decide_eq_true apart ?_⟩
        rw [stored, Option.bind_some, same] at owner
        exact Option.some.inj owner
      · rename_i noOwner
        refine ⟨inside, fun tun stored same => ?_⟩
        rw [stored, Option.bind_some, same] at noOwner
        cases noOwner
    obtain ⟨tun, stored, owner⟩ := indexed.owned e kept.1 virtual
    refine ⟨tun, ?_, owner⟩
    have apart : key ≠ e.2.interfaceNo := by
      intro same
      exact kept.2 tun (same ▸ stored) owner
    exact (StdMap.getElem?_erase_ne apart).trans stored
  · intro k inside
    exact indexed.numbered k (StdMap.mem_erase.mp inside).2
  · intro j k t u first second
    exact indexed.endpoints j k t u (erased first) (erased second)

theorem dropTunnel_absent {key : Nat} (absent : key ∉ s.tunnels) :
    ∀ j : Nat, (s.dropTunnel key).tunnels[j]? = s.tunnels[j]? := by
  intro j
  change (s.tunnels.erase key)[j]? = _
  by_cases same : key = j
  · subst same
    rw [StdMap.getElem?_erase_self]
    cases stored : s.tunnels[key]? with
    | none => rfl
    | some tun => exact absurd (StdMap.mem_iff_exists.mpr ⟨tun, stored⟩) absent
  · exact StdMap.getElem?_erase_ne same

theorem Indexed.tunnelDestination (indexed : s.Indexed) (dest : IPv6Address) (vIfIndex : Nat) :
    (s.tunnelDestination dest vIfIndex).2.Indexed := by
  unfold IPv6Encapsulation.tunnelDestination
  split
  · exact indexed
  · rename_i tun stored
    split
    · exact ⟨indexed.routers, indexed.neighbours, indexed.owned, indexed.numbered,
        indexed.bounded, indexed.endpoints⟩
    · rename_i unowned
      have inserted {j : Nat} {t : Tunnel}
          (found : (s.tunnels.insert vIfIndex { tun with ne := some s.cds.next })[j]? = some t) :
          ∃ t', s.tunnels[j]? = some t' ∧ t'.entry = t.entry ∧ t'.exit = t.exit := by
        by_cases same : vIfIndex = j
        · subst same
          rw [StdMap.getElem?_insert_self] at found
          cases found
          exact ⟨tun, stored, rfl, rfl⟩
        · rw [StdMap.getElem?_insert_ne same] at found
          exact ⟨t, found, rfl, rfl⟩
      refine ⟨indexed.routers, indexed.neighbours, ?_, ?_, indexed.bounded, ?_⟩
      · intro e inside virtual
        rcases List.mem_cons.mp inside with rfl | old
        · exact ⟨{ tun with ne := some s.cds.next }, StdMap.getElem?_insert_self, rfl⟩
        · obtain ⟨tun', stored', owner⟩ := indexed.owned e old virtual
          have apart : vIfIndex ≠ e.2.interfaceNo := by
            intro same
            rw [← same, stored] at stored'
            cases stored'
            rw [unowned] at owner
            cases owner
          exact ⟨tun', (StdMap.getElem?_insert_ne apart).trans stored', owner⟩
      · intro k inside
        rcases StdMap.mem_insert.mp inside with rfl | old
        · exact indexed.numbered _ (StdMap.mem_iff_exists.mpr ⟨tun, stored⟩)
        · exact indexed.numbered k old
      · intro j k t u first second sameEntry sameExit
        obtain ⟨t', first', entry, exit⟩ := inserted first
        obtain ⟨u', second', entry', exit'⟩ := inserted second
        exact indexed.endpoints j k t' u' first' second' ((entry.trans sameEntry).trans entry'.symm)
          ((exit.trans sameExit).trans exit'.symm)

theorem tunnelDestination_mem {dest : IPv6Address} {vIfIndex k : Nat} :
    k ∈ (s.tunnelDestination dest vIfIndex).2.tunnels ↔ k ∈ s.tunnels := by
  unfold IPv6Encapsulation.tunnelDestination
  split
  · exact Iff.rfl
  · rename_i tun stored
    split
    · exact Iff.rfl
    · refine StdMap.mem_insert.trans ⟨?_, .inr⟩
      rintro (rfl | old)
      · exact StdMap.mem_iff_exists.mpr ⟨tun, stored⟩
      · exact old

@[simp] theorem tunnelDestination_frame (dest : IPv6Address) (vIfIndex : Nat) :
    (s.tunnelDestination dest vIfIndex).2.vIfIndexTop = s.vIfIndexTop ∧
      (s.tunnelDestination dest vIfIndex).2.curHopLimits = s.curHopLimits := by
  unfold IPv6Encapsulation.tunnelDestination
  split
  · exact ⟨rfl, rfl⟩
  · split <;> exact ⟨rfl, rfl⟩

/-! ### The search of a tunnel -/

theorem findFirst_eq {p : Tunnel → Bool} {key : Nat} (found : s.findFirst p = key)
    (positive : key ≠ 0) : ∃ tun, s.tunnels[key]? = some tun ∧ p tun = true := by
  unfold findFirst at found
  split at found
  · rename_i k tun first
    subst found
    obtain ⟨selected, stored, -⟩ := StdMap.find?_toList_eq_some _ first
    exact ⟨tun, stored, selected⟩
  · exact absurd found.symm positive

/-- As long as no tunnel has the index 0, this is the sign for none. -/
theorem findFirst_eq_zero {p : Tunnel → Bool} (missing : s.findFirst p = 0)
    (positive : 0 ∉ s.tunnels) (k : Nat) (tun : Tunnel) (stored : s.tunnels[k]? = some tun) : p tun = false := by
  unfold findFirst at missing
  split at missing
  · rename_i key other first
    obtain ⟨-, here, -⟩ := StdMap.find?_toList_eq_some _ first
    rw [missing] at here
    exact absurd (StdMap.mem_iff_exists.mpr ⟨other, here⟩) positive
  · rename_i noTunnel
    exact (StdMap.find?_toList_eq_none _).mp noTunnel k tun stored

theorem findTunnel_none {src dest : Ipv6Addr} (missing : s.findTunnel src dest = .ok 0)
    (positive : 0 ∉ s.tunnels) (k : Nat) (tun : Tunnel) (stored : s.tunnels[k]? = some tun) :
    ¬ (tun.entry = src ∧ tun.exit = dest) := by
  rintro ⟨rfl, rfl⟩
  unfold findTunnel at missing
  split at missing
  · have apart := findFirst_eq_zero (Except.ok.inj missing) positive k tun stored
    simp at apart
  · obtain ⟨-, -, missing⟩ := bind_eq_ok.mp missing
    split at missing
    · have apart := findFirst_eq_zero (Except.ok.inj missing) positive k tun stored
      simp at apart
    · have apart := findFirst_eq_zero (Except.ok.inj missing) positive k tun stored
      simp at apart

/-! ### What the calls do -/

/-- The module with a tunnel added at the index `vIfIndexTop`. -/
def withTunnel (s : IPv6Encapsulation) (tun : Tunnel) : IPv6Encapsulation :=
  { s.dropTunnel s.vIfIndexTop with
    tunnels := (s.dropTunnel s.vIfIndexTop).tunnels.insert s.vIfIndexTop tun
    vIfIndexTop := sizePred s.vIfIndexTop }

theorem tunnelDestination_top (s : IPv6Encapsulation) (dest : IPv6Address) (vIfIndex top : Nat) :
    ({ s with vIfIndexTop := top }.tunnelDestination dest vIfIndex).2 =
      { (s.tunnelDestination dest vIfIndex).2 with vIfIndexTop := top } := by
  unfold IPv6Encapsulation.tunnelDestination
  dsimp only
  split
  · rfl
  · split
    · rfl
    · rfl

theorem createTunnel_eq_ok {localDeliver : Ipv6Addr → Bool} {src dest destTrigger : Ipv6Addr}
    {ifIndex index : Nat} {forOnePkt : Bool}
    (done : s.createTunnel localDeliver src dest ifIndex destTrigger forOnePkt = .ok (index, s')) :
    (index = 0 ∧ s' = s) ∨
      (s.findTunnel src dest = .ok 0 ∧ index = s.vIfIndexTop ∧
        ∃ t, t = s.withTunnel { entry := src, exit := dest, ifIndex, forOnePkt } ∧
          (s' = t ∨ s' = (t.tunnelDestination (IPv6Address.host destTrigger) s.vIfIndexTop).2)) := by
  obtain ⟨found, search, done⟩ := bind_eq_ok.mp done
  obtain ⟨_, missing, done⟩ := bind_eq_ok.mp done
  rw [assert_eq_ok] at missing
  subst missing
  split at done
  · cases done
    exact .inl ⟨rfl, rfl⟩
  · refine .inr ⟨search, ?_⟩
    cases done
    refine ⟨rfl, _, rfl, ?_⟩
    split
    · exact .inr (tunnelDestination_top _ _ _ _).symm
    · exact .inl rfl

theorem sizePred_lt {n : Nat} (positive : 0 < n) (bounded : n < 2 ^ 64) : sizePred n < n := by
  unfold sizePred
  omega

theorem Indexed.withTunnel (indexed : s.Indexed) {tun : Tunnel}
    (left : s.curHopLimits.length ≤ s.vIfIndexTop) (positive : 0 < s.vIfIndexTop)
    (new : ∀ (k : Nat) (t : Tunnel), s.tunnels[k]? = some t →
      ¬ (t.entry = tun.entry ∧ t.exit = tun.exit)) : (s.withTunnel tun).Indexed := by
  have dropped := indexed.dropTunnel s.vIfIndexTop
  have absent : s.vIfIndexTop ∉ s.tunnels :=
    fun inside => absurd (indexed.numbered _ inside).1 (Nat.lt_irrefl _)
  have same := dropTunnel_absent absent
  have below := sizePred_lt positive indexed.bounded
  -- apart from the new tunnel the table is that of `s`
  have stored {j : Nat} {t : Tunnel} (found : (s.withTunnel tun).tunnels[j]? = some t) :
      j = s.vIfIndexTop ∧ t = tun ∨ j ≠ s.vIfIndexTop ∧ s.tunnels[j]? = some t := by
    by_cases top : s.vIfIndexTop = j
    · subst top
      refine .inl ⟨rfl, ?_⟩
      have here := StdMap.getElem?_insert_self.symm.trans found
      exact (Option.some.inj here).symm
    · refine .inr ⟨Ne.symm top, ?_⟩
      rw [← same j]
      exact (StdMap.getElem?_insert_ne top).symm.trans found
  refine ⟨dropped.routers, dropped.neighbours, ?_, ?_, Nat.lt_trans below indexed.bounded, ?_⟩
  · intro e inside virtual
    obtain ⟨owner, found, owns⟩ := dropped.owned e inside virtual
    have top : s.vIfIndexTop ≠ e.2.interfaceNo := by
      intro top
      rw [same, ← top] at found
      exact absent (StdMap.mem_iff_exists.mpr ⟨owner, found⟩)
    exact ⟨owner, (StdMap.getElem?_insert_ne top).trans found, owns⟩
  · intro k inside
    rcases StdMap.mem_insert.mp inside with rfl | old
    · exact ⟨below, left⟩
    · obtain ⟨above, virtual⟩ := indexed.numbered k (StdMap.mem_erase.mp old).2
      exact ⟨Nat.lt_trans below above, virtual⟩
  · intro j k t u first second entry exit
    rcases stored first with ⟨rfl, rfl⟩ | ⟨-, old⟩
    · rcases stored second with ⟨rfl, -⟩ | ⟨-, old⟩
      · rfl
      · exact absurd ⟨entry.symm, exit.symm⟩ (new k u old)
    · rcases stored second with ⟨rfl, rfl⟩ | ⟨-, old'⟩
      · exact absurd ⟨entry, exit⟩ (new j t old)
      · exact indexed.endpoints j k t u old old' entry exit

theorem Indexed.removeDestEntryByTunnel (indexed : s.Indexed) (vIfIndex : Nat) :
    { s with cds := s.cds.removeDestEntryByTunnel vIfIndex }.Indexed :=
  ⟨indexed.routers, indexed.neighbours, indexed.owned, indexed.numbered, indexed.bounded,
    indexed.endpoints⟩

/-- What a call may do to a tunnel table besides adding to it. -/
structure Shrinks (s s' : IPv6Encapsulation) : Prop where
  indexed : s.Indexed → s'.Indexed
  tunnels : ∀ k ∈ s'.tunnels, k ∈ s.tunnels
  top : s'.vIfIndexTop = s.vIfIndexTop
  interfaces : s'.curHopLimits = s.curHopLimits

namespace Shrinks

theorem refl (s : IPv6Encapsulation) : Shrinks s s := ⟨id, fun _ => id, rfl, rfl⟩

theorem tunnelDestination (s : IPv6Encapsulation) (dest : IPv6Address) (vIfIndex : Nat) :
    Shrinks s (s.tunnelDestination dest vIfIndex).2 :=
  ⟨fun indexed => indexed.tunnelDestination dest vIfIndex, fun _ => tunnelDestination_mem.mp,
    (tunnelDestination_frame dest vIfIndex).1, (tunnelDestination_frame dest vIfIndex).2⟩

theorem dropTunnel (s : IPv6Encapsulation) (key vIfIndex : Nat) :
    Shrinks s { s.dropTunnel key with
      cds := (s.dropTunnel key).cds.removeDestEntryByTunnel vIfIndex } :=
  ⟨fun indexed => (indexed.dropTunnel key).removeDestEntryByTunnel vIfIndex,
    fun _ inside => (StdMap.mem_erase.mp inside).2, rfl, rfl⟩

theorem destroyTunnelAt (s : IPv6Encapsulation) (vIfIndex : Nat) : Shrinks s (s.destroyTunnelAt vIfIndex).2 := by
  unfold IPv6Encapsulation.destroyTunnelAt
  split
  · exact refl s
  · exact dropTunnel s vIfIndex vIfIndex

theorem destroyTunnel {src dest : Ipv6Addr} {found : Bool}
    (done : s.destroyTunnel src dest = .ok (found, s')) : Shrinks s s' := by
  obtain ⟨vIfIndex, -, done⟩ := bind_eq_ok.mp done
  split at done
  · cases done
    exact refl s
  · cases done
    exact dropTunnel s vIfIndex vIfIndex

theorem encapsulate {dgram : IPv6Datagram} {encapLimit : Int}
    (done : s.encapsulate dgram encapLimit = .ok s') : Shrinks s s' := by
  unfold IPv6Encapsulation.encapsulate at done
  split at done
  · cases done
    exact refl s
  · split at done
    · cases done
      exact refl s
    · split at done
      · cases done
        exact refl s
      · obtain ⟨_, -, done⟩ := bind_eq_ok.mp done
        obtain ⟨_, -, done⟩ := bind_eq_ok.mp done
        obtain ⟨hopLimit, -, done⟩ := bind_eq_ok.mp done
        obtain ⟨timeToLive, -, done⟩ := bind_eq_ok.mp done
        have logged (out : List EncapsulatedDatagram) : Shrinks s { s with sent := out } :=
          ⟨fun indexed => ⟨indexed.routers, indexed.neighbours, indexed.owned, indexed.numbered,
            indexed.bounded, indexed.endpoints⟩, fun _ => id, rfl, rfl⟩
        split at done
        · obtain ⟨⟨found, t⟩, destroyed, done⟩ := bind_eq_ok.mp done
          cases done
          have shrinks := destroyTunnel destroyed
          exact ⟨fun indexed => shrinks.indexed ((logged _).indexed indexed), shrinks.tunnels,
            shrinks.top, shrinks.interfaces⟩
        · cases done
          exact logged _

end Shrinks

end IPv6Encapsulation

namespace TunnelHistory

open IPv6Encapsulation

/-- The counter is below every index that was ever handed out. -/
structure Numbered (h : TunnelHistory) : Prop where
  indexed : h.module.Indexed
  unused : h.created.Nodup
  above : ∀ k ∈ h.created, h.module.vIfIndexTop < k
  created : ∀ k ∈ h.module.tunnels, k ∈ h.created

variable {h : TunnelHistory}

theorem Numbered.consistent (numbered : h.Numbered) : h.Consistent where
  unused := numbered.unused
  numbered := fun k inside => ⟨numbered.created k inside, (numbered.indexed.numbered k inside).2⟩
  endpoints := numbered.indexed.endpoints
  directed := fun _ _ _ _ live virtual => interfaceNo_mem numbered.indexed live virtual

theorem Numbered.create {cds : IPv6CDS} {isRouter : Bool} {curHopLimits : List (BitVec 16)}
    (real : cds.OnInterfaces curHopLimits.length) :
    Numbered ⟨IPv6Encapsulation.create cds isRouter curHopLimits, []⟩ where
  indexed :=
    { routers := real.routers
      neighbours := real.neighbours
      owned := fun e inside virtual => absurd (real.held e inside) (Nat.not_lt.mpr virtual)
      numbered := fun k inside => absurd inside Std.TreeMap.not_mem_emptyc
      bounded := by
        change uintMax - curHopLimits.length - 1 < 2 ^ 64
        unfold uintMax
        omega
      endpoints := by
        intro j k t u first
        rw [IPv6Encapsulation.create, Std.TreeMap.getElem?_emptyc] at first
        cases first }
  unused := List.nodup_nil
  above := fun k inside => absurd inside List.not_mem_nil
  created := fun k inside => absurd inside Std.TreeMap.not_mem_emptyc

theorem Numbered.shrink {s : IPv6Encapsulation} (numbered : h.Numbered)
    (shrinks : Shrinks h.module s) : Numbered { h with module := s } where
  indexed := shrinks.indexed numbered.indexed
  unused := numbered.unused
  above := fun k inside => shrinks.top ▸ numbered.above k inside
  created := fun k inside => numbered.created k (shrinks.tunnels k inside)

theorem Numbered.add (numbered : h.Numbered) (tun : Tunnel)
    (left : h.module.curHopLimits.length ≤ h.module.vIfIndexTop)
    (positive : 0 < h.module.vIfIndexTop)
    (new : ∀ (k : Nat) (t : Tunnel), h.module.tunnels[k]? = some t →
      ¬ (t.entry = tun.entry ∧ t.exit = tun.exit)) :
    Numbered ⟨h.module.withTunnel tun, h.module.vIfIndexTop :: h.created⟩ where
  indexed := numbered.indexed.withTunnel left positive new
  unused := List.nodup_cons.mpr
    ⟨fun inside => absurd (numbered.above _ inside) (Nat.lt_irrefl _), numbered.unused⟩
  above := by
    intro k inside
    have below := sizePred_lt positive numbered.indexed.bounded
    rcases List.mem_cons.mp inside with rfl | old
    · exact below
    · exact Nat.lt_trans below (numbered.above k old)
  created := by
    intro k inside
    rcases StdMap.mem_insert.mp inside with rfl | old
    · exact List.mem_cons_self
    · exact List.mem_cons_of_mem _ (numbered.created k (StdMap.mem_erase.mp old).2)

theorem step_numbered (h : TunnelHistory) (op : TunnelOp) (h' : TunnelHistory)
    (numbered : h.Numbered) (left : h.IndexLeft op) (done : h.step op = .ok h') : h'.Numbered := by
  have nonzero : 0 ∉ h.module.tunnels :=
    fun inside => absurd (numbered.indexed.numbered 0 inside).1 (Nat.not_lt_zero _)
  cases op with
  | createTunnel localDeliver src dest ifIndex destTrigger forOnePkt =>
      obtain ⟨room, positive⟩ := left
      obtain ⟨⟨index, s'⟩, calls, done⟩ := bind_eq_ok.mp done
      cases done
      rcases createTunnel_eq_ok calls with ⟨rfl, rfl⟩ | ⟨search, rfl, t, rfl, same⟩
      · exact numbered
      · have added := numbered.add { entry := src, exit := dest, ifIndex, forOnePkt } room positive
          (findTunnel_none search nonzero)
        rw [if_neg (Nat.ne_of_gt positive)]
        rcases same with rfl | rfl
        · exact added
        · exact added.shrink (Shrinks.tunnelDestination _ _ _)
  | tunnelDestination dest vIfIndex =>
      cases done
      exact numbered.shrink (Shrinks.tunnelDestination _ _ _)
  | destroyTunnel src dest =>
      obtain ⟨⟨found, s'⟩, destroyed, done⟩ := bind_eq_ok.mp done
      cases done
      exact numbered.shrink (Shrinks.destroyTunnel destroyed)
  | destroyTunnelAt vIfIndex =>
      cases done
      exact numbered.shrink (Shrinks.destroyTunnelAt _ _)
  | encapsulate dgram encapLimit =>
      obtain ⟨s', sent, done⟩ := bind_eq_ok.mp done
      cases done
      exact numbered.shrink (Shrinks.encapsulate sent)

theorem not_consistent_of_exhausted {h h' : TunnelHistory} {op : TunnelOp} (numbered : h.Numbered)
    (exhausted : ¬ h.IndexLeft op) (done : h.step op = .ok h') : h' = h ∨ ¬ h'.Consistent := by
  cases op with
  | createTunnel localDeliver src dest ifIndex destTrigger forOnePkt =>
      obtain ⟨⟨index, s'⟩, calls, done⟩ := bind_eq_ok.mp done
      cases done
      rcases createTunnel_eq_ok calls with ⟨rfl, rfl⟩ | ⟨-, rfl, t, rfl, same⟩
      · exact .inl rfl
      · refine .inr fun consistent => exhausted ?_
        have inside : h.module.vIfIndexTop ∈ s'.tunnels ∧
            s'.curHopLimits = h.module.curHopLimits := by
          have added : h.module.vIfIndexTop ∈
              (h.module.withTunnel { entry := src, exit := dest, ifIndex, forOnePkt }).tunnels :=
            StdMap.mem_insert.mpr (.inl rfl)
          rcases same with rfl | rfl
          · exact ⟨added, rfl⟩
          · exact ⟨tunnelDestination_mem.mpr added, (tunnelDestination_frame _ _).2⟩
        obtain ⟨logged, virtual⟩ := consistent.numbered _ inside.1
        refine ⟨inside.2 ▸ virtual, Nat.pos_of_ne_zero fun zero => ?_⟩
        rw [if_pos zero] at logged
        exact absurd (numbered.above _ logged) (Nat.lt_irrefl _)
  | tunnelDestination dest vIfIndex => exact absurd trivial exhausted
  | destroyTunnel src dest => exact absurd trivial exhausted
  | destroyTunnelAt vIfIndex => exact absurd trivial exhausted
  | encapsulate dgram encapLimit => exact absurd trivial exhausted

/-- As long as the counter stays above the interfaces, tunnels and destinations agree. The
first tunnel that is created later ends that. -/
theorem tunnels_consistent {cds : IPv6CDS} {isRouter : Bool} {curHopLimits : List (BitVec 16)}
    {ops : List TunnelOp} {h : TunnelHistory} (real : cds.OnInterfaces curHopLimits.length)
    (runs : Runs step IndexLeft ⟨IPv6Encapsulation.create cds isRouter curHopLimits, []⟩ ops h) :
    h.Consistent ∧
      ∀ op h', h.step op = .ok h' → ¬ h.IndexLeft op → h' = h ∨ ¬ h'.Consistent := by
  have numbered := runs.invariant Numbered step_numbered (.create real)
  exact ⟨numbered.consistent, fun op h' done exhausted =>
    not_consistent_of_exhausted numbered exhausted done⟩

/-- Two tunnels from one entry point, each with a destination directed into it. -/
def exampleOps : List TunnelOp :=
  [.createTunnel (fun _ => false) ⟨0x20010000, 0, 0, 1⟩ ⟨0x20010000, 0, 0, 2⟩ 0
      ⟨0x20020000, 0, 0, 7⟩ false,
    .createTunnel (fun _ => false) ⟨0x20010000, 0, 0, 1⟩ ⟨0x20010000, 0, 0, 3⟩ 0 .unspecified true,
    .tunnelDestination (IPv6Address.host ⟨0x20020000, 0, 0, 8⟩) 4294967292]

def exampleStart : TunnelHistory := ⟨.create .empty true [64], []⟩

theorem tunnels_consistent_example :
    ∃ h, Runs step IndexLeft exampleStart exampleOps h ∧ h.Consistent ∧
      h.created = [4294967292, 4294967293] := by
  have real : IPv6CDS.empty.OnInterfaces [(64 : BitVec 16)].length := by
    refine ⟨fun _ inside => absurd inside List.not_mem_nil, fun addr e stored => ?_,
      fun _ inside => absurd inside List.not_mem_nil⟩
    rw [IPv6CDS.empty, Std.TreeMap.getElem?_emptyc] at stored
    cases stored
  have runs : Runs step IndexLeft exampleStart exampleOps _ :=
    .cons ⟨by decide, by decide⟩ rfl
      (.cons ⟨by decide, by decide⟩ rfl (.cons trivial rfl (.nil _)))
  exact ⟨_, runs, (tunnels_consistent real runs).1, by decide⟩

/-! ### The counter runs out -/

def exampleTunnel : Tunnel where
  entry := ⟨0x20010000, 0, 0, 1⟩
  exit := ⟨0x20010000, 0, 0, 2⟩
  ifIndex := 0
  forOnePkt := false

def exampleCreate : TunnelOp :=
  .createTunnel (fun _ => false) exampleTunnel.entry exampleTunnel.exit 0 .unspecified false

def exampleDestroy : TunnelOp := .destroyTunnel exampleTunnel.entry exampleTunnel.exit

theorem findTunnel_example (s : IPv6Encapsulation) :
    s.findTunnel exampleTunnel.entry exampleTunnel.exit = .ok (s.findFirst fun tun =>
      tun.entry = exampleTunnel.entry ∧ tun.exit = exampleTunnel.exit) := rfl

def afterCreate (h : TunnelHistory) : TunnelHistory where
  module := h.module.withTunnel exampleTunnel
  created := if h.module.vIfIndexTop = 0 then h.created else h.module.vIfIndexTop :: h.created

def afterDestroy (h : TunnelHistory) (top : Nat) : TunnelHistory where
  module := { h.module.dropTunnel top with
    cds := (h.module.dropTunnel top).cds.removeDestEntryByTunnel top }
  created := h.created

theorem afterCreate_stored (h : TunnelHistory) (j : Nat) :
    h.afterCreate.module.tunnels[j]? =
      if j = h.module.vIfIndexTop then some exampleTunnel else h.module.tunnels[j]? := by
  by_cases top : h.module.vIfIndexTop = j
  · subst top
    rw [if_pos rfl]
    exact StdMap.getElem?_insert_self
  · rw [if_neg (Ne.symm top)]
    exact (StdMap.getElem?_insert_ne top).trans (StdMap.getElem?_erase_ne top)

/-- The search finds nothing but an index 0. -/
theorem step_exampleCreate (onlyZero : ∀ (j : Nat) (t : Tunnel), h.module.tunnels[j]? = some t → j = 0) :
    h.step exampleCreate = .ok h.afterCreate := by
  have missing : h.module.findTunnel exampleTunnel.entry exampleTunnel.exit = .ok 0 := by
    rw [findTunnel_example]
    by_cases zero : (h.module.findFirst fun tun =>
        tun.entry = exampleTunnel.entry ∧ tun.exit = exampleTunnel.exit) = 0
    · rw [zero]
    · obtain ⟨tun, stored, -⟩ := findFirst_eq rfl zero
      exact absurd (onlyZero _ _ stored) zero
  unfold step exampleCreate createTunnel
  dsimp only
  rw [missing]
  rfl

theorem step_exampleDestroy {top : Nat} (positive : top ≠ 0)
    (single : ∀ j : Nat, h.module.tunnels[j]? = if j = top then some exampleTunnel else none) :
    h.step exampleDestroy = .ok (h.afterDestroy top) := by
  have found : h.module.findTunnel exampleTunnel.entry exampleTunnel.exit = .ok top := by
    rw [findTunnel_example]
    have nonzero : 0 ∉ h.module.tunnels := by
      intro inside
      obtain ⟨t, stored⟩ := StdMap.mem_iff_exists.mp inside
      rw [single, if_neg (Ne.symm positive)] at stored
      cases stored
    have first : (h.module.findFirst fun tun =>
        tun.entry = exampleTunnel.entry ∧ tun.exit = exampleTunnel.exit) ≠ 0 := by
      intro zero
      have unmatched := findFirst_eq_zero zero nonzero top exampleTunnel (by rw [single, if_pos rfl])
      simp at unmatched
    obtain ⟨t, stored, -⟩ := findFirst_eq rfl first
    rw [single] at stored
    split at stored
    · rename_i same
      rw [same]
    · cases stored
  unfold step exampleDestroy destroyTunnel
  dsimp only
  rw [found, ok_bind, if_neg positive]
  rfl

theorem afterDestroy_empty {top : Nat}
    (single : ∀ j : Nat, h.module.tunnels[j]? = if j = top then some exampleTunnel else none)
    (j : Nat) : (h.afterDestroy top).module.tunnels[j]? = none := by
  change (h.module.tunnels.erase top)[j]? = none
  by_cases same : top = j
  · rw [same, StdMap.getElem?_erase_self]
  · rw [StdMap.getElem?_erase_ne same, single, if_neg (Ne.symm same)]

theorem sizePred_succ {n : Nat} (bounded : n + 1 < 2 ^ 64) : sizePred (n + 1) = n := by
  unfold sizePred
  omega

theorem exampleRounds (top : Nat) (bounded : top < 2 ^ 64)
    (empty : ∀ j : Nat, h.module.tunnels[j]? = none) (counter : h.module.vIfIndexTop = top) :
    ∃ ops h', run step h ops = .ok h' ∧ (∀ j : Nat, h'.module.tunnels[j]? = none) ∧ h'.module.vIfIndexTop = 0 := by
  induction top generalizing h with
  | zero => exact ⟨[], h, rfl, empty, counter⟩
  | succ n ih =>
      have created := step_exampleCreate (h := h) fun j t stored => by
        rw [empty] at stored
        cases stored
      have single (j : Nat) : h.afterCreate.module.tunnels[j]? =
          if j = n + 1 then some exampleTunnel else none := by
        rw [afterCreate_stored, counter, empty]
      have destroyed := step_exampleDestroy (Nat.succ_ne_zero n) single
      have next : (h.afterCreate.afterDestroy (n + 1)).module.vIfIndexTop = n := by
        change sizePred h.module.vIfIndexTop = n
        rw [counter, sizePred_succ bounded]
      obtain ⟨ops, h', runs, finished⟩ :=
        ih (Nat.lt_of_succ_lt bounded) (afterDestroy_empty single) next
      refine ⟨exampleCreate :: exampleDestroy :: ops, h', ?_, finished⟩
      rw [run_cons, created, ok_bind, run_cons, destroyed, ok_bind, runs]

/-- The tunnel with the index 0 is not found, so that another one gets its endpoints. -/
theorem tunnels_with_one_pair_of_endpoints :
    ¬ ∀ ops h, run step exampleStart ops = .ok h → h.Consistent := by
  intro claim
  have start (j : Nat) : exampleStart.module.tunnels[j]? = none := Std.TreeMap.getElem?_emptyc
  obtain ⟨ops, h, runs, empty, zero⟩ :=
    exampleRounds exampleStart.module.vIfIndexTop (by decide) start rfl
  have first := step_exampleCreate (h := h) fun j t stored => by
    rw [empty] at stored
    cases stored
  have single (j : Nat) : h.afterCreate.module.tunnels[j]? =
      if j = 0 then some exampleTunnel else none := by
    rw [afterCreate_stored, zero, empty]
  have second := step_exampleCreate (h := h.afterCreate) fun j t stored => by
    rw [single] at stored
    split at stored
    · assumption
    · cases stored
  have reached := claim (ops ++ [exampleCreate, exampleCreate]) h.afterCreate.afterCreate (by
    rw [run_append, runs, ok_bind, run_cons, first, ok_bind, run_cons, second]
    rfl)
  have top : h.afterCreate.module.vIfIndexTop = 2 ^ 64 - 1 := by
    change sizePred h.module.vIfIndexTop = 2 ^ 64 - 1
    rw [zero]
    rfl
  have same := reached.endpoints 0 (2 ^ 64 - 1) exampleTunnel exampleTunnel
    (by rw [afterCreate_stored, top, single]; rfl)
    (by rw [afterCreate_stored, top, if_pos rfl]) rfl rfl
  exact absurd same (by decide)

end TunnelHistory

end IPv6Suite
