import IPv6Suite.BindingRegistration
import IPv6Suite.TunnelDirection

namespace IPv6Suite

open Lib MIPv6MobilityState

/-- What a home agent has to handle; which addresses are its own is looked up at the call. -/
inductive HomeAgentEvent where
  | bindingUpdate (localDeliver : Ipv6Addr → Bool) (dgram : MobilityDatagram BU)
  | expireLifetimes

namespace HomeAgent

def create (cds : IPv6CDS) (isRouter : Bool) (curHopLimits : List (BitVec 16)) : HomeAgent :=
  ⟨∅, .create cds isRouter curHopLimits⟩

def step (ha : HomeAgent) : HomeAgentEvent → Exec HomeAgent
  | .bindingUpdate localDeliver dgram => do
      let (_, _, ha) ← ha.processBU localDeliver dgram
      return ha
  | .expireLifetimes => .ok ha.expireLifetimes

/-- Each binding has one tunnel from the home agent to its care-of address, with the home address
directed into it, no other address is directed into a tunnel, and bindings can be removed. -/
structure Tunnelled (gaddr : Ipv6Addr) (ha : HomeAgent) : Prop where
  bound : ∀ home bce, ha.bc.findBinding home = some bce →
    ∃ k, ha.tunMod.cds.via (IPv6Address.host home) = some k ∧
      ∀ j, ha.tunMod.ends j = some (gaddr, bce.careOfAddr) ↔ j = k
  unbound : ∀ home k, ha.bc.findBinding home = none →
    ha.tunMod.cds.via (IPv6Address.host home) = some k → k ∉ ha.tunMod.tunnels
  removes : ∀ home, ∃ result, ha.deregisterBCE home = .ok result

/-- The binding is there already, with the same care-of address. -/
def Refreshes (ha : HomeAgent) (dgram : MobilityDatagram BU) : Prop :=
  ∃ bce, ha.bc.findBinding (hoa dgram) = some bce ∧ bce.careOfAddr = dgram.srcAddress

/-- No other binding has the care-of address that the home address has now. -/
def Unshared (ha : HomeAgent) (home : Ipv6Addr) : Prop :=
  ∀ bce other bce', ha.bc.findBinding home = some bce → other ≠ home →
    ha.bc.findBinding other = some bce' → bce'.careOfAddr ≠ bce.careOfAddr

/-- There is a tunnel to the care-of address, or one is created. -/
def Tunnels (gaddr : Ipv6Addr) (ha : HomeAgent) (localDeliver : Ipv6Addr → Bool)
    (coa : Ipv6Addr) : Prop :=
  (∃ k, ha.tunMod.ends k = some (gaddr, coa)) ∨
    ¬ (localDeliver gaddr = true ∧ localDeliver coa = true) ∧
      ha.tunMod.curHopLimits.length ≤ ha.tunMod.vIfIndexTop ∧ 0 < ha.tunMod.vIfIndexTop

structure Follows (gaddr : Ipv6Addr) (ha : HomeAgent) (localDeliver : Ipv6Addr → Bool)
    (dgram : MobilityDatagram BU) : Prop where
  agent : dgram.destAddress = gaddr
  specified : dgram.srcAddress ≠ .unspecified
  tunnels : ha.Tunnels gaddr localDeliver dgram.srcAddress
  directs : dgram.encapsulatedMsg.llac = true ∨ ha.Refreshes dgram
  leaves : ha.Refreshes dgram ∨ ha.Unshared (hoa dgram)

/-- No binding runs out, and a home address does not leave a care-of address that is shared. -/
def Undisturbed (gaddr : Ipv6Addr) (ha : HomeAgent) : HomeAgentEvent → Prop
  | .bindingUpdate localDeliver dgram => ha.Handled dgram →
      if dgram.Deregisters then ha.Unshared (hoa dgram) else ha.Follows gaddr localDeliver dgram
  | .expireLifetimes =>
      ∀ home bce, ha.bc.findBinding home = some bce → mipv6Period.toNat < bce.expires

/-- The binding cache, the tunnels and the destinations agree. -/
structure Agrees (gaddr : Ipv6Addr) (ha : HomeAgent) : Prop where
  linked : ha.tunMod.Linked
  keyed : ∀ home bce, ha.bc.findBinding home = some bce →
    bce.homeAddr = home ∧ bce.careOfAddr ≠ .unspecified
  bound : ∀ home bce, ha.bc.findBinding home = some bce →
    ∃ k, ha.tunMod.cds.via (IPv6Address.host home) = some k ∧
      ha.tunMod.ends k = some (gaddr, bce.careOfAddr)
  unbound : ∀ home k, ha.bc.findBinding home = none →
    ha.tunMod.cds.via (IPv6Address.host home) = some k → k < ha.tunMod.curHopLimits.length

variable {ha ha' : HomeAgent} {gaddr home other : Ipv6Addr} {localDeliver : Ipv6Addr → Bool}
  {dgram : MobilityDatagram BU} {bce : BcEntry} {accepted : Bool} {reply : Option BADatagram}
  {k : Nat}

/-! ### A binding that is removed -/

theorem via_lookup {de : DestinationEntry} {key : IPv6Address}
    (stored : ha.tunMod.cds.destCache[IPv6Address.host home]? = some de) :
    (ha.lookup home).2.tunMod.cds.via key = ha.tunMod.cds.via key := by
  unfold lookup IPv6CDS.via
  dsimp only
  rw [stored, Option.getD_some]
  by_cases same : IPv6Address.host home = key
  · rw [← same, StdMap.getElem?_insert_self, stored]
    rfl
  · rw [StdMap.getElem?_insert_ne same]
    rfl

theorem linked_lookup (linked : ha.tunMod.Linked) : (ha.lookup home).2.tunMod.Linked where
  indexed := ⟨linked.indexed.routers, linked.indexed.neighbours, linked.indexed.owned,
    linked.indexed.numbered, linked.indexed.bounded, linked.indexed.endpoints⟩
  allocated := by
    refine ⟨linked.allocated.routers, linked.allocated.neighbours, linked.allocated.held, ?_⟩
    intro key de p stored points
    unfold lookup at stored
    dsimp only at stored
    by_cases same : IPv6Address.host home = key
    · rw [← same, StdMap.getElem?_insert_self] at stored
      cases stored
      cases found : ha.tunMod.cds.destCache[IPv6Address.host home]? with
      | none =>
          rw [found] at points
          cases points
      | some de =>
          rw [found] at points
          exact linked.allocated.destinations _ de p found points
    · rw [StdMap.getElem?_insert_ne same] at stored
      exact linked.allocated.destinations key de p stored points
  short := linked.short
  owns := linked.owns

theorem deregisterBCE_bound (found : ha.bc.findBinding home = some bce)
    (directed : ha.tunMod.cds.via (IPv6Address.host home) = some k) (inside : k ∈ ha.tunMod.tunnels) :
    ha.deregisterBCE home = .ok (true, ⟨ha.bc.erase home, (ha.lookup home).2.tunMod.withoutTunnel k⟩) := by
  obtain ⟨de, ne, stored, live, rfl⟩ := IPv6CDS.via_eq_some.mp directed
  have looked : (ha.lookup home).1 = some ne := by
    unfold lookup
    dsimp only
    rw [stored]
    exact live
  have destroyed : (ha.lookup home).2.tunMod.destroyTunnelAt ne.interfaceNo =
      (true, (ha.lookup home).2.tunMod.withoutTunnel ne.interfaceNo) :=
    IPv6Encapsulation.destroyTunnelAt_mem inside
  unfold deregisterBCE
  rw [found]
  dsimp only
  rw [looked, deref_some, ok_bind, destroyed]
  dsimp only
  rw [assert_pos rfl, ok_bind]
  unfold MIPv6MobilityState.deregisterBCE BindingCache.removeBinding
  have bc : (ha.lookup home).2.bc = ha.bc := rfl
  rw [bc, found]
  rfl

theorem Agrees.tunnelled (agrees : ha.Agrees gaddr) : ha.Tunnelled gaddr where
  bound home bce found := by
    obtain ⟨k, directed, stored⟩ := agrees.bound home bce found
    refine ⟨k, directed, fun j => ⟨fun here => ?_, ?_⟩⟩
    · exact agrees.linked.indexed.ends_unique here stored
    · rintro rfl
      exact stored
  unbound home k absent directed inside := by
    have real := agrees.unbound home k absent directed
    have virtual := (agrees.linked.indexed.numbered k inside).2
    omega
  removes home := by
    cases found : ha.bc.findBinding home with
    | none =>
        unfold deregisterBCE
        rw [found]
        exact ⟨_, rfl⟩
    | some bce =>
        obtain ⟨k, directed, stored⟩ := agrees.bound home bce found
        exact ⟨_, deregisterBCE_bound found directed (IPv6Encapsulation.mem_of_ends stored)⟩

theorem Agrees.deregisterBCE (agrees : ha.Agrees gaddr) (alone : ha.Unshared home)
    (deregisters : ha.deregisterBCE home = .ok (accepted, ha')) : ha'.Agrees gaddr := by
  cases found : ha.bc.findBinding home with
  | none =>
      unfold HomeAgent.deregisterBCE at deregisters
      rw [found] at deregisters
      cases deregisters
      exact agrees
  | some bce =>
      obtain ⟨k, directed, stored⟩ := agrees.bound home bce found
      have inside := IPv6Encapsulation.mem_of_ends stored
      obtain ⟨de, -, entry, -⟩ := IPv6CDS.via_eq_some.mp directed
      rw [deregisterBCE_bound found directed inside] at deregisters
      cases deregisters
      have linked : (ha.lookup home).2.tunMod.Linked := linked_lookup agrees.linked
      -- what is left of the destinations is not directed into the tunnel that goes
      have left {key : IPv6Address} {j : Nat} :
          ((ha.lookup home).2.tunMod.withoutTunnel k).cds.via key = some j ↔
            ha.tunMod.cds.via key = some j ∧ j ≠ k := by
        rw [IPv6Encapsulation.via_withoutTunnel linked inside, via_lookup entry]
      refine ⟨linked.withoutTunnel, ?_, ?_, ?_⟩
      · intro other bce' found'
        dsimp only at found'
        by_cases same : home = other
        · rw [same, BindingCache.findBinding_erase_self] at found'
          cases found'
        · rw [BindingCache.findBinding_erase_ne same] at found'
          exact agrees.keyed other bce' found'
      · intro other bce' found'
        dsimp only at found'
        by_cases same : home = other
        · rw [same, BindingCache.findBinding_erase_self] at found'
          cases found'
        rw [BindingCache.findBinding_erase_ne same] at found'
        obtain ⟨j, directed', stored'⟩ := agrees.bound other bce' found'
        have apart : j ≠ k := by
          rintro rfl
          rw [stored] at stored'
          have shared := (Prod.mk.inj (Option.some.inj stored')).2
          exact alone bce other bce' found (Ne.symm same) found' shared.symm
        refine ⟨j, left.mpr ⟨directed', apart⟩, ?_⟩
        rw [IPv6Encapsulation.ends_withoutTunnel, if_neg apart.symm]
        exact stored'
      · intro other j absent directed'
        dsimp only at absent directed'
        obtain ⟨before, apart⟩ := left.mp directed'
        by_cases same : home = other
        · subst same
          rw [directed] at before
          cases before
          exact absurd rfl apart
        · rw [BindingCache.findBinding_erase_ne same] at absent
          exact agrees.unbound other j absent before

/-! ### A binding that is registered -/

/-- The module before the home address is directed into the tunnel `k` -/
structure Ready (gaddr : Ipv6Addr) (ha : HomeAgent) (dgram : MobilityDatagram BU)
    (s : IPv6Encapsulation) (k : Nat) : Prop where
  linked : s.Linked
  ends : s.ends k = some (gaddr, dgram.srcAddress)
  others : ∀ other bce, other ≠ hoa dgram → ha.bc.findBinding other = some bce →
    ∃ j, s.cds.via (IPv6Address.host other) = some j ∧ s.ends j = some (gaddr, bce.careOfAddr)
  refreshed : ha.Refreshes dgram → s.cds.via (IPv6Address.host (hoa dgram)) = some k
  fewer : ∀ key j, s.cds.via key = some j → ha.tunMod.cds.via key = some j
  interfaces : s.curHopLimits = ha.tunMod.curHopLimits

variable {s s' : IPv6Encapsulation}

theorem Agrees.ready_stay (agrees : ha.Agrees gaddr)
    (opens : IPv6Encapsulation.Opens ha.tunMod s gaddr dgram.srcAddress k) :
    ha.Ready gaddr dgram s k where
  linked := opens.linked
  ends := opens.ends
  others other bce _ found := by
    obtain ⟨j, directed, stored⟩ := agrees.bound other bce found
    exact ⟨j, (opens.via _).trans directed, opens.others j _ stored⟩
  refreshed := by
    rintro ⟨bce, found, same⟩
    obtain ⟨j, directed, stored⟩ := agrees.bound _ bce found
    have old := opens.others j _ stored
    rw [same] at old
    rw [opens.via, directed, opens.linked.indexed.ends_unique old opens.ends]
  fewer key j directed := (opens.via key).symm.trans directed
  interfaces := opens.interfaces

theorem Agrees.ready_leave (agrees : ha.Agrees gaddr)
    (opens : IPv6Encapsulation.Opens ha.tunMod s gaddr dgram.srcAddress k)
    (found : ha.bc.findBinding (hoa dgram) = some bce) (moves : bce.careOfAddr ≠ dgram.srcAddress)
    (alone : ha.Unshared (hoa dgram)) {old : Nat} (stored : ha.tunMod.ends old = some (gaddr, bce.careOfAddr)) :
    ha.Ready gaddr dgram (s.withoutTunnel old) k := by
  have inside := IPv6Encapsulation.mem_of_ends (opens.others old _ stored)
  have ready := agrees.ready_stay opens
  have differs {j : Nat} {coa : Ipv6Addr} (here : s.ends j = some (gaddr, coa))
      (apart : coa ≠ bce.careOfAddr) : j ≠ old := by
    rintro rfl
    have both := here.symm.trans (opens.others j _ stored)
    exact apart (Prod.mk.inj (Option.some.inj both)).2
  refine ⟨opens.linked.withoutTunnel, ?_, ?_, ?_, ?_, opens.interfaces⟩
  · rw [IPv6Encapsulation.ends_withoutTunnel, if_neg (differs opens.ends moves.symm).symm]
    exact opens.ends
  · intro other bce' apart found'
    obtain ⟨j, directed, here⟩ := ready.others other bce' apart found'
    have kept := differs here (alone bce other bce' found apart found')
    refine ⟨j, (IPv6Encapsulation.via_withoutTunnel opens.linked inside).mpr ⟨directed, kept⟩, ?_⟩
    rw [IPv6Encapsulation.ends_withoutTunnel, if_neg kept.symm]
    exact here
  · rintro ⟨bce', found', same⟩
    rw [found] at found'
    cases found'
    exact absurd same moves
  · intro key j directed
    exact ready.fewer key j ((IPv6Encapsulation.via_withoutTunnel opens.linked inside).mp directed).1

theorem Agrees.ready (agrees : ha.Agrees gaddr) (entry : gaddr ≠ .unspecified)
    (leaves : ha.Refreshes dgram ∨ ha.Unshared (hoa dgram))
    (opens : IPv6Encapsulation.Opens ha.tunMod s gaddr dgram.srcAddress k) {destroyed : Bool}
    (left : (if ((ha.bc.findBinding (hoa dgram)).map (·.careOfAddr)).getD .unspecified ≠
          .unspecified ∧ ((ha.bc.findBinding (hoa dgram)).map (·.careOfAddr)).getD .unspecified ≠
          dgram.srcAddress then
        s.destroyTunnel gaddr (((ha.bc.findBinding (hoa dgram)).map (·.careOfAddr)).getD .unspecified)
      else .ok (false, s)) = .ok (destroyed, s')) : ha.Ready gaddr dgram s' k := by
  split at left
  · rename_i moves
    cases found : ha.bc.findBinding (hoa dgram) with
    | none =>
        rw [found] at moves
        exact absurd rfl moves.1
    | some bce =>
        rw [found] at moves left
        obtain ⟨specified, moved⟩ := moves
        obtain ⟨old, -, stored⟩ := agrees.bound _ bce found
        have gone := IPv6Encapsulation.destroyTunnel_ends opens.linked.indexed specified entry
          (opens.others old _ stored) left
        have alone : ha.Unshared (hoa dgram) := by
          refine leaves.resolve_left ?_
          rintro ⟨bce', found', same⟩
          rw [found] at found'
          cases found'
          exact moved same
        rw [gone]
        exact agrees.ready_leave opens found moved alone stored
  · cases left
    exact agrees.ready_stay opens

theorem Ready.agrees (ready : ha.Ready gaddr dgram s k) (agrees : ha.Agrees gaddr)
    (specified : dgram.srcAddress ≠ .unspecified)
    (directs : dgram.encapsulatedMsg.llac = true ∨ ha.Refreshes dgram) :
    Agrees gaddr ⟨MIPv6MobilityState.registerBCE ha.bc dgram.encapsulatedMsg (hoa dgram) dgram,
      if dgram.encapsulatedMsg.llac then
        (s.tunnelDestination (IPv6Address.host (hoa dgram)) k).2
      else s⟩ := by
  have inside := IPv6Encapsulation.mem_of_ends ready.ends
  generalize after : (if dgram.encapsulatedMsg.llac then
    (s.tunnelDestination (IPv6Address.host (hoa dgram)) k).2 else s) = t
  have directed : t.Linked ∧ (∀ other, t.cds.via (IPv6Address.host other) =
      if hoa dgram = other then some k else s.cds.via (IPv6Address.host other)) ∧
      (∀ j, t.ends j = s.ends j) ∧ t.curHopLimits = s.curHopLimits := by
    subst after
    split
    · refine ⟨ready.linked.tunnelDestination inside, fun other => ?_, fun j => ?_, ?_⟩
      · rw [IPv6Encapsulation.via_tunnelDestination ready.linked inside]
        simp only [IPv6Address.host_inj]
      · exact IPv6Encapsulation.ends_tunnelDestination
      · exact (IPv6Encapsulation.tunnelDestination_frame _ _).2
    · rename_i kept
      refine ⟨ready.linked, fun other => ?_, fun _ => rfl, rfl⟩
      split
      · rename_i same
        exact same ▸ ready.refreshed (directs.resolve_left kept)
      · rfl
  obtain ⟨linked, via, ends, interfaces⟩ := directed
  refine ⟨linked, ?_, ?_, ?_⟩
  · intro home bce found
    dsimp only at found
    rw [findBinding_registerBCE] at found
    split at found
    · rename_i same
      cases found
      refine ⟨?_, specified⟩
      subst same
      unfold registered
      cases before : ha.bc.findBinding (hoa dgram) with
      | none => rfl
      | some bce => exact (agrees.keyed _ bce before).1
    · exact agrees.keyed home bce found
  · intro home bce found
    dsimp only at found ⊢
    rw [findBinding_registerBCE] at found
    simp only [via, ends]
    split at found
    · rename_i same
      cases found
      rw [if_pos same]
      exact ⟨k, rfl, ready.ends⟩
    · rename_i apart
      rw [if_neg apart]
      exact ready.others home bce (Ne.symm apart) found
  · intro home j absent towards
    dsimp only at absent towards ⊢
    rw [findBinding_registerBCE] at absent
    rw [via] at towards
    split at absent
    · cases absent
    · rename_i apart
      rw [if_neg apart] at towards
      rw [interfaces, ready.interfaces]
      exact agrees.unbound home j absent (ready.fewer _ j towards)

theorem Agrees.registerBCE (agrees : ha.Agrees gaddr) (follows : ha.Follows gaddr localDeliver dgram)
    (registers : ha.registerBCE localDeliver dgram.encapsulatedMsg (hoa dgram) dgram = .ok ha') :
    ha'.Agrees gaddr := by
  unfold HomeAgent.registerBCE at registers
  dsimp only at registers
  rw [findBinding_registerBCE, if_pos rfl, deref_some, ok_bind] at registers
  obtain ⟨_, entry, rest⟩ := bind_eq_ok.mp registers
  obtain ⟨found, search, rest⟩ := bind_eq_ok.mp rest
  obtain ⟨⟨k, s⟩, opened, rest⟩ := bind_eq_ok.mp rest
  obtain ⟨⟨destroyed, s'⟩, left, rest⟩ := bind_eq_ok.mp rest
  rw [assert_eq_ok, follows.agent] at entry
  rw [follows.agent] at search opened left
  have opens := agrees.linked.opens follows.specified entry search follows.tunnels opened
  have ready := agrees.ready entry follows.leaves opens left
  have home : (registered ha.bc dgram.encapsulatedMsg (hoa dgram) dgram).homeAddr = hoa dgram := by
    unfold registered
    cases before : ha.bc.findBinding (hoa dgram) with
    | none => rfl
    | some bce => exact (agrees.keyed _ bce before).1
  have after := ready.agrees agrees follows.specified follows.directs
  cases rest
  rw [home]
  exact after

/-! ### Ticks, and runs -/

theorem findBinding_expireLifetimes : ha.expireLifetimes.bc.findBinding home =
    (ha.bc.findBinding home).bind fun bce =>
      if bce.expires > mipv6Period.toNat then
        some { bce with expires := bce.expires - mipv6Period.toNat }
      else none :=
  Std.TreeMap.getElem?_filterMap'

theorem Agrees.expireLifetimes (agrees : ha.Agrees gaddr)
    (lasts : ∀ home bce, ha.bc.findBinding home = some bce → mipv6Period.toNat < bce.expires) :
    ha.expireLifetimes.Agrees gaddr := by
  have kept {home : Ipv6Addr} {bce : BcEntry}
      (found : ha.expireLifetimes.bc.findBinding home = some bce) :
      ∃ before, ha.bc.findBinding home = some before ∧ bce.homeAddr = before.homeAddr ∧
        bce.careOfAddr = before.careOfAddr := by
    rw [findBinding_expireLifetimes] at found
    obtain ⟨before, stored, left⟩ := Option.bind_eq_some_iff.mp found
    rw [if_pos (lasts home before stored)] at left
    cases left
    exact ⟨before, stored, rfl, rfl⟩
  refine ⟨agrees.linked, ?_, ?_, ?_⟩
  · intro home bce found
    obtain ⟨before, stored, sameHome, sameCoa⟩ := kept found
    rw [sameHome, sameCoa]
    exact agrees.keyed home before stored
  · intro home bce found
    obtain ⟨before, stored, -, sameCoa⟩ := kept found
    rw [sameCoa]
    exact agrees.bound home before stored
  · intro home k absent
    refine agrees.unbound home k ?_
    cases stored : ha.bc.findBinding home with
    | none => rfl
    | some bce =>
        rw [findBinding_expireLifetimes, stored, Option.bind_some, if_pos (lasts home bce stored)]
          at absent
        cases absent

theorem Agrees.step {e : HomeAgentEvent} (agrees : ha.Agrees gaddr)
    (undisturbed : ha.Undisturbed gaddr e) (steps : ha.step e = .ok ha') : ha'.Agrees gaddr := by
  cases e with
  | bindingUpdate localDeliver dgram =>
      obtain ⟨⟨accepted, reply, after⟩, processes, rest⟩ := bind_eq_ok.mp steps
      cases rest
      rcases processBU_cases processes with ⟨-, same⟩ |
        ⟨handled, ⟨deregisters, dereg⟩ | ⟨registers, -, registered⟩⟩
      · exact same ▸ agrees
      · have alone := undisturbed handled
        rw [if_pos deregisters] at alone
        exact agrees.deregisterBCE alone dereg
      · have follows := undisturbed handled
        rw [if_neg registers] at follows
        exact agrees.registerBCE follows registered
  | expireLifetimes =>
      cases steps
      exact agrees.expireLifetimes undisturbed

theorem Agrees.create {cds : IPv6CDS} {isRouter : Bool} {curHopLimits : List (BitVec 16)}
    (real : cds.OnInterfaces curHopLimits.length) (allocated : cds.Allocated) :
    (HomeAgent.create cds isRouter curHopLimits).Agrees gaddr where
  linked :=
    { indexed := (TunnelHistory.Numbered.create real).indexed
      allocated
      short := by
        refine ⟨?_, fun k inside => absurd inside Std.TreeMap.not_mem_emptyc⟩
        change uintMax - curHopLimits.length - 1 < 2 ^ 32
        unfold uintMax
        omega
      owns := by
        intro k tun p stored
        cases Std.TreeMap.getElem?_emptyc.symm.trans stored }
  keyed home bce found := by cases Std.TreeMap.getElem?_emptyc.symm.trans found
  bound home bce found := by cases Std.TreeMap.getElem?_emptyc.symm.trans found
  unbound home k _ directed := by
    have indexed : (IPv6Encapsulation.create cds isRouter curHopLimits).Indexed :=
      (TunnelHistory.Numbered.create real).indexed
    by_contra virtual
    have inside := indexed.via_mem directed (Nat.le_of_not_lt virtual)
    exact absurd inside Std.TreeMap.not_mem_emptyc

end HomeAgent

/-- Bindings, tunnels and destinations agree as long as no binding runs out and the tunnels can
follow the bindings. -/
theorem home_agent_tunnels {cds : IPv6CDS} {isRouter : Bool} {curHopLimits : List (BitVec 16)}
    {gaddr : Ipv6Addr} {es : List HomeAgentEvent} {ha : HomeAgent}
    (real : cds.OnInterfaces curHopLimits.length) (allocated : cds.Allocated)
    (runs : Runs HomeAgent.step (HomeAgent.Undisturbed gaddr) (.create cds isRouter curHopLimits)
      es ha) : ha.Tunnelled gaddr :=
  (runs.invariant (HomeAgent.Agrees gaddr)
    (fun _ _ _ agrees undisturbed steps => agrees.step undisturbed steps)
    (.create real allocated)).tunnelled

namespace HomeAgent

/-- Home addresses are on the link with this prefix. -/
def exampleCds : IPv6CDS :=
  { IPv6CDS.empty with
    prefixList := Std.TreeMap.insert ∅ ⟨⟨0x20000000, 0, 0, 0⟩, 64⟩
      ⟨0, ⟨⟨⟨0x20000000, 0, 0, 0⟩, 64⟩, 0, false, true, 0, false, false⟩, 0⟩ }

def exampleAgent : HomeAgent := create exampleCds true [64]

def exampleDgram (home coa : BitVec 32) (sequence expires : BitVec 16) : MobilityDatagram BU :=
  ⟨⟨0x20010000, 0, 0, coa⟩, ⟨0x20000000, 0, 0, 1⟩, some ⟨0x20000000, 0, 0, home⟩, 0, 1,
    ⟨true, true, true, false, sequence, expires, none, none, false⟩⟩

def exampleUpdate (home coa : BitVec 32) (sequence expires : BitVec 16) : HomeAgentEvent :=
  .bindingUpdate (· = ⟨0x20000000, 0, 0, 1⟩) (exampleDgram home coa sequence expires)

theorem exampleCds_onInterfaces : exampleCds.OnInterfaces [(64 : BitVec 16)].length := by
  refine ⟨fun _ inside => absurd inside List.not_mem_nil, fun addr e stored => ?_,
    fun _ inside => absurd inside List.not_mem_nil⟩
  cases Std.TreeMap.getElem?_emptyc.symm.trans stored

theorem exampleCds_allocated : exampleCds.Allocated := by
  refine ⟨fun _ inside => absurd inside List.not_mem_nil, fun addr e stored => ?_,
    fun _ inside => absurd inside List.not_mem_nil, fun key de p stored => ?_⟩
  · cases Std.TreeMap.getElem?_emptyc.symm.trans stored
  · cases Std.TreeMap.getElem?_emptyc.symm.trans stored

/-- A mobile node registers, moves on and has time left after a tick. -/
theorem home_agent_tunnels_example :
    ∃ ha bce k, Runs step (Undisturbed ⟨0x20000000, 0, 0, 1⟩) exampleAgent
        [exampleUpdate 2 2 0 100, exampleUpdate 2 3 1 100, .expireLifetimes] ha ∧
      ha.bc.findBinding ⟨0x20000000, 0, 0, 2⟩ = some bce ∧
      bce.careOfAddr = ⟨0x20010000, 0, 0, 3⟩ ∧
      ∀ j, ha.tunMod.ends j = some (⟨0x20000000, 0, 0, 1⟩, bce.careOfAddr) ↔ j = k := by
  obtain ⟨first, second, registers, bc₁, top₁, moves, bc₂⟩ : ∃ first second,
      exampleAgent.step (exampleUpdate 2 2 0 100) = .ok first ∧
      first.bc = MIPv6MobilityState.registerBCE ∅ (exampleDgram 2 2 0 100).encapsulatedMsg
        ⟨0x20000000, 0, 0, 2⟩ (exampleDgram 2 2 0 100) ∧
      (first.tunMod.curHopLimits.length ≤ first.tunMod.vIfIndexTop ∧
        0 < first.tunMod.vIfIndexTop) ∧
      first.step (exampleUpdate 2 3 1 100) = .ok second ∧
      second.bc = MIPv6MobilityState.registerBCE first.bc (exampleDgram 2 3 1 100).encapsulatedMsg
        ⟨0x20000000, 0, 0, 2⟩ (exampleDgram 2 3 1 100) :=
    ⟨_, _, rfl, rfl, by decide, rfl, rfl⟩
  have alone {ha : HomeAgent} {home : Ipv6Addr}
      (only : ∀ other, other ≠ home → ha.bc.findBinding other = none) : ha.Unshared home := by
    intro bce other bce' _ apart found
    rw [only other apart] at found
    cases found
  have absent (other : Ipv6Addr) : BindingCache.findBinding ∅ other = none :=
    Std.TreeMap.getElem?_emptyc
  have follows₁ : exampleAgent.Undisturbed ⟨0x20000000, 0, 0, 1⟩ (exampleUpdate 2 2 0 100) := by
    intro _
    rw [if_neg (by decide)]
    exact ⟨rfl, by decide, .inr ⟨by decide, by decide, by decide⟩, .inl rfl,
      .inr (alone fun other _ => absent other)⟩
  have others₁ : ∀ other, other ≠ ⟨0x20000000, 0, 0, 2⟩ → first.bc.findBinding other = none := by
    intro other apart
    rw [bc₁, findBinding_registerBCE, if_neg apart.symm]
    exact absent other
  have follows₂ : first.Undisturbed ⟨0x20000000, 0, 0, 1⟩ (exampleUpdate 2 3 1 100) := by
    intro _
    rw [if_neg (by decide)]
    exact ⟨rfl, by decide, .inr ⟨by decide, top₁⟩, .inl rfl, .inr (alone others₁)⟩
  have lasts : ∀ home bce, second.bc.findBinding home = some bce →
      mipv6Period.toNat < bce.expires := by
    intro home bce found
    rw [bc₂, findBinding_registerBCE] at found
    split at found
    · cases found
      change mipv6Period.toNat < (100 : BitVec 16).toNat
      decide
    · rename_i apart
      rw [others₁ home (Ne.symm apart)] at found
      cases found
  have runs : Runs step (Undisturbed ⟨0x20000000, 0, 0, 1⟩) exampleAgent
      [exampleUpdate 2 2 0 100, exampleUpdate 2 3 1 100, .expireLifetimes] second.expireLifetimes :=
    .cons follows₁ registers (.cons follows₂ moves (.cons lasts rfl (.nil _)))
  have tunnelled := home_agent_tunnels exampleCds_onInterfaces exampleCds_allocated runs
  have found : second.expireLifetimes.bc.findBinding ⟨0x20000000, 0, 0, 2⟩ =
      some ⟨⟨0x20000000, 0, 0, 2⟩, ⟨0x20010000, 0, 0, 3⟩, 99, 1, true⟩ := by
    rw [findBinding_expireLifetimes, bc₂, findBinding_registerBCE, if_pos rfl, Option.bind_some,
      bc₁]
    rfl
  obtain ⟨k, -, single⟩ := tunnelled.bound _ _ found
  exact ⟨_, _, k, runs, found, rfl, single⟩

/-- The tunnel stays when a binding runs out; and two home addresses lose the tunnel to a
care-of address when one of them leaves it, so that the other cannot be removed. -/
theorem home_agent_tunnels_fail :
    ¬ (∀ es ha, run step exampleAgent es = .ok ha → ha.Tunnelled ⟨0x20000000, 0, 0, 1⟩) ∧
      (run step exampleAgent [exampleUpdate 2 2 0 100, exampleUpdate 3 2 0 100,
        exampleUpdate 2 2 1 0]).map (fun _ => ()) = .ok () ∧
      (run step exampleAgent [exampleUpdate 2 2 0 100, exampleUpdate 3 2 0 100,
        exampleUpdate 2 2 1 0, exampleUpdate 3 2 1 0]).map (fun _ => ()) = .error .assertFailed := by
  refine ⟨fun claim => ?_, by decide +kernel, by decide +kernel⟩
  obtain ⟨ha, registers, directed, inside, expires⟩ : ∃ ha,
      exampleAgent.step (exampleUpdate 2 2 0 1) = .ok ha ∧
      ha.tunMod.cds.via (IPv6Address.host ⟨0x20000000, 0, 0, 2⟩) = some 4294967293 ∧
      4294967293 ∈ ha.tunMod.tunnels ∧
      ha.expireLifetimes.bc.findBinding ⟨0x20000000, 0, 0, 2⟩ = none :=
    ⟨_, rfl, rfl, rfl, findBinding_expireLifetimes.trans rfl⟩
  have runs : run step exampleAgent [exampleUpdate 2 2 0 1, .expireLifetimes] =
      .ok ha.expireLifetimes := by
    rw [run_cons, registers]
    rfl
  exact (claim _ _ runs).unbound _ _ expires directed inside

end HomeAgent

end IPv6Suite
