import IPv6Suite.MobileDelivery

namespace IPv6Suite

open Lib

namespace IPv6Datagram

variable {d d' sent : IPv6Datagram} {j : Nat} {t : IPv6ExtHeader} {home coa : Ipv6Addr}

/-- What an upper layer sees of a datagram -/
structure SamePacket (d d' : IPv6Datagram) : Prop where
  srcAddress : d'.srcAddress = d.srcAddress
  destAddress : d'.destAddress = d.destAddress
  encapsulatedMsg : d'.encapsulatedMsg = d.encapsulatedMsg

/-- The headers that arrive are those of a copy; the way there decides the hop limit and the
ports. -/
structure Transferred (d d' : IPv6Datagram) : Prop where
  copies : ∃ copies : List CopyOp, d'.extHdrs = (copies.foldl CopyOp.copy d).extHdrs
  same : SamePacket d d'

/-- A datagram without a mobility message whose headers form a chain and leave nothing to do. -/
structure Ordinary (d : IPv6Datagram) : Prop where
  chained : ∃ copied, d.Chained copied
  quiet : ∀ proc ∈ d.extHdrs, proc.Quiet
  message : d.encapsulatedMsg.hasMobility = false

/-- There is room for a routing header of type 2. -/
structure Routable (d : IPv6Datagram) : Prop where
  single : ∀ (i k : Nat), d.types[i]? = some .routing → d.types[k]? = some .routing → i = k
  fresh : ∀ proc ∈ d.extHdrs, proc.routingHeader type2RtHdr = none

theorem Ordinary.whole (ordinary : d.Ordinary) : .fragment ∉ d.types := by
  intro inside
  obtain ⟨proc, inside', fragment⟩ := List.mem_map.mp inside
  exact (ordinary.quiet proc inside').whole fragment

theorem Ordinary.delivered (ordinary : d.Ordinary) (bc : BindingCache) (own : Ipv6Addr → Bool)
    (n : Nat) : d.deliver bc own (n + 1) = .ok (some d) := by
  have passes := processDatagram_quiet bc (d := d) fun _ proc located =>
    ordinary.quiet proc (List.mem_of_getElem? located)
  rw [deliver, passes]
  rfl

/-- By induction on the copies -/
theorem Transferred.preserves {P : IPv6Datagram → Prop} (transferred : Transferred d d')
    (congr : ∀ d d', P d → d'.extHdrs = d.extHdrs → P d') (dup : ∀ d, P d → P d.dup) (holds : P d) : P d' := by
  obtain ⟨copies, headers⟩ := transferred.copies
  refine congr _ _ ?_ headers
  clear headers transferred
  induction copies generalizing d with
  | nil => exact holds
  | cons op rest ih =>
      apply ih
      cases op with
      | dup => exact dup d holds
      | assign dest => exact congr d.dup _ (dup d holds) rfl

/-! ### From the correspondent to the mobile node -/

theorem createMIPv6_carries (home : Ipv6Addr) : ∃ rh, HdrExtRte.createMIPv6 home = .ok rh ∧ rh.Carries [] [home] ∧
      rh.routingType = type2RtHdr := by
  have empty : ({ HdrExtRte.create type2RtHdr with isMIPv6RteOpt := true } : HdrExtRte).Carries
      [] [] := ⟨rfl, rfl, rfl, fun _ => Nat.zero_le 1⟩
  obtain ⟨rh, added, carries, type, -⟩ := empty.addAddress (Or.inr rfl) (fun _ => rfl) home (by decide)
  exact ⟨rh, added, carries, type⟩

variable {rh : HdrExtRte}

theorem addRoutingHeader_fresh {proc : HdrExtProc}
    (fresh : proc.routingHeader type2RtHdr = none) (type : rh.routingType = type2RtHdr) :
    (proc.addRoutingHeader rh).2 = { proc with rheads := proc.rheads ++ [rh] } := by
  have absent : ¬ (proc.rheads.any (·.routingType = rh.routingType)) = true := by
    rw [type, List.any_eq_true]
    rintro ⟨other, inside, same⟩
    rw [List.findIdx?_eq_none_iff.mp fresh other inside] at same
    cases same
  unfold HdrExtProc.addRoutingHeader
  rw [if_neg absent]

theorem addRoutingHeader_carried (ordinary : d.Ordinary) (routable : d.Routable) (home : Ipv6Addr) :
    ∃ sent j front rh, MIPv6MobilityState.addRoutingHeader home d = .ok (true, sent) ∧
      sent.Carried j front rh ∧ rh.Carries [] [home] ∧ SamePacket d sent := by
  obtain ⟨copied, chained⟩ := ordinary.chained
  obtain ⟨j, acquired, acquires, ⟨proc, located, type, origin⟩, others, longer, src, dest, msg⟩ :=
    acquire_acquires (·.routeHdr) (fun proc d => { d with routeHdr := proc }) chained
      ordinary.whole (Or.inl rfl) fun _ _ => ⟨rfl, rfl, rfl, rfl⟩
  have plain : proc.Quiet ∧ proc.routingHeader type2RtHdr = none := by
    rcases origin with ⟨rfl, -⟩ | ⟨old, -⟩
    · exact ⟨HdrExtProc.Quiet.create IPv6ExtHeader.noConfusion, rfl⟩
    · exact ⟨ordinary.quiet proc (List.mem_of_getElem? old),
        routable.fresh proc (List.mem_of_getElem? old)⟩
  have bound := (List.getElem?_eq_some_iff.mp located).1
  obtain ⟨rh, created, carries, type2⟩ := createMIPv6_carries home
  refine ⟨{ acquired with
    extHdrs := acquired.extHdrs.set j { proc with rheads := proc.rheads ++ [rh] } }, j,
    proc.rheads, rh, ?_, ⟨?_, plain.1.visited, ?_⟩, carries, src, dest, msg⟩
  · unfold MIPv6MobilityState.addRoutingHeader acquireRoutingInterface
    rw [acquires, ok_bind]
    dsimp only
    rw [deref_some, ok_bind, located, deref_some, ok_bind,
      assert_pos plain.2, ok_bind, created, ok_bind,
      addRoutingHeader_fresh plain.2 type2]
    rfl
  · exact ⟨_, List.getElem?_set_self bound, type, rfl, plain.1.noOptions⟩
  · intro i other apart found
    rw [List.getElem?_set_ne (Ne.symm apart)] at found
    obtain ⟨old, here, sameType, sameRheads, sameOptions⟩ := others i other apart found
    have quiet := ordinary.quiet old (List.mem_of_getElem? here)
    refine ⟨⟨sameType ▸ quiet.whole, sameOptions ▸ quiet.noOptions, sameRheads ▸ quiet.visited⟩, ?_⟩
    intro later routing
    have routing' : d.types[i]? = some .routing := by
      rw [types, List.getElem?_map, here, Option.map_some, ← sameType, routing]
    rcases origin with ⟨-, last⟩ | ⟨first, -⟩
    · have inside := (List.getElem?_eq_some_iff.mp here).1
      omega
    · have located' : d.types[j]? = some .routing := by
        rw [types, List.getElem?_map, first, Option.map_some, type]
      exact apart (routable.single i j routing' located')

variable {front : List HdrExtRte}

theorem Carried.transferred (carried : d.Carried j front rh)
    (carries : rh.Carries [] [home]) (transferred : Transferred d d') :
    ∃ front rh, d'.Carried j front rh ∧ rh.Carries [] [home] := by
  refine transferred.preserves
    (P := fun d => ∃ front rh, d.Carried j front rh ∧ rh.Carries [] [home]) ?_ ?_
    ⟨front, rh, carried, carries⟩
  · rintro d d' ⟨front, rh, carried, carries⟩ same
    exact ⟨front, rh, carried.of_extHdrs same, carries⟩
  · rintro d ⟨front, rh, carried, carries⟩
    exact ⟨_, _, carried.dup, carries.dup⟩

variable {bc : BindingCache} {own : Ipv6Addr → Bool} {n : Nat}

theorem Carried.delivered (carried : sent.Carried j front rh)
    (carries : rh.Carries [] [d.destAddress]) (same : SamePacket { d with destAddress := coa } sent)
    (unicast : coa.isMulticast = false) (unicastHome : d.destAddress.isMulticast = false)
    (transferred : Transferred sent d') (limit : 1 < d'.hopLimit.toInt)
    (atHome : own d.destAddress = true) :
    ∃ last, d'.deliver bc own (n + 2) = .ok (some last) ∧ SamePacket d last := by
  obtain ⟨front', rh', carried', carries'⟩ := carried.transferred carries transferred
  have dest : d'.destAddress = coa := transferred.same.destAddress.trans same.destAddress
  refine ⟨_, carried'.deliver carries' (dest.symm ▸ unicast) unicastHome limit atHome, ?_, rfl, ?_⟩
  · exact transferred.same.srcAddress.trans same.srcAddress
  · exact transferred.same.encapsulatedMsg.trans same.encapsulatedMsg

/-! ### From the mobile node to the correspondent -/

theorem addHomeAddress_optioned (ordinary : d.Ordinary) (bule : BuEntry) :
    ∃ sent j, MobileNode.addHomeAddress bule d = .ok sent ∧ sent.Optioned j d.srcAddress ∧
      SamePacket { d with srcAddress := bule.careOfAddr } sent := by
  obtain ⟨copied, chained⟩ := ordinary.chained
  obtain ⟨j, acquired, acquires, ⟨proc, located, type, origin⟩, others, longer, src, dest, msg⟩ :=
    acquire_acquires (·.destHdr) (fun proc d => { d with destHdr := proc }) chained
      ordinary.whole (Or.inr rfl) fun _ _ => ⟨rfl, rfl, rfl, rfl⟩
  have plain : proc.destOpts = [] := by
    rcases origin with ⟨rfl, -⟩ | ⟨old, -⟩
    · rfl
    · exact (ordinary.quiet proc (List.mem_of_getElem? old)).noOptions
  have bound := (List.getElem?_eq_some_iff.mp located).1
  have free : proc.getOption = none := by
    rw [HdrExtProc.getOption, plain]
    rfl
  have adds : proc.addOption acquired.srcAddress =
      (true, { proc with destOpts := [d.srcAddress] }) := by
    rw [HdrExtProc.addOption, plain, src]
    rfl
  refine ⟨{ acquired with
    extHdrs := acquired.extHdrs.set j { proc with destOpts := [d.srcAddress] }
    srcAddress := bule.careOfAddr }, j, ?_, ⟨?_, ?_⟩, rfl, dest, msg⟩
  · unfold MobileNode.addHomeAddress acquireDestInterface
    rw [acquires, ok_bind]
    dsimp only
    rw [deref_some, ok_bind, located, deref_some, ok_bind,
      assert_pos free, ok_bind, adds]
    rfl
  · exact ⟨_, List.getElem?_set_self bound, type, rfl⟩
  · intro i other apart found
    rw [List.getElem?_set_ne (Ne.symm apart)] at found
    obtain ⟨old, here, sameType, sameRheads, sameOptions⟩ := others i other apart found
    have quiet := ordinary.quiet old (List.mem_of_getElem? here)
    exact ⟨sameType ▸ quiet.whole, sameOptions ▸ quiet.noOptions, sameRheads ▸ quiet.visited⟩

theorem Optioned.transferred (optioned : d.Optioned j home) (transferred : Transferred d d') : d'.Optioned j home :=
  transferred.preserves (P := fun d => d.Optioned j home)
    (fun _ _ optioned same => optioned.of_extHdrs same) (fun _ optioned => optioned.dup) optioned

theorem Optioned.delivered {bce : BcEntry}
    (optioned : sent.Optioned j d.srcAddress)
    (same : SamePacket { d with srcAddress := coa } sent)
    (message : d.encapsulatedMsg.hasMobility = false)
    (bound : bc.findBinding d.srcAddress = some bce) (careOf : bce.careOfAddr = coa)
    (transferred : Transferred sent d') :
    ∃ last, d'.deliver bc own (n + 1) = .ok (some last) ∧ SamePacket d last := by
  have carried : d'.encapsulatedMsg = d.encapsulatedMsg :=
    transferred.same.encapsulatedMsg.trans same.encapsulatedMsg
  have src : d'.srcAddress = coa := transferred.same.srcAddress.trans same.srcAddress
  refine ⟨_, (optioned.transferred transferred).deliver (carried.symm ▸ message) bound
    (careOf.trans src.symm), rfl, ?_, carried⟩
  exact transferred.same.destAddress.trans same.destAddress

end IPv6Datagram

/-! ### Both ways -/

open IPv6Datagram

/-- The correspondent's binding for the mobile node and the mobile node's entry for the
correspondent have the same care-of address. -/
structure BindingsMatch (cn : CorrespondentNode) (mn : MobileNode) (bce : BcEntry) (bule : BuEntry) :
    Prop where
  cached : cn.bc.findBinding mn.homeAddr = some bce
  homeAddr : bce.homeAddr = mn.homeAddr
  careOfAddr : bule.careOfAddr = bce.careOfAddr
  apart : bce.careOfAddr ≠ mn.homeAddr
  unicast : mn.homeAddr.isMulticast = false ∧ bce.careOfAddr.isMulticast = false

variable {cn : CorrespondentNode} {mn : MobileNode} {bce : BcEntry} {bule : BuEntry}
  {d : IPv6Datagram}

theorem cnSendPacketCheck_carried (ordinary : d.Ordinary) (routable : d.Routable)
    (bound : cn.bc.findBinding d.destAddress = some bce) (keyed : bce.homeAddr = d.destAddress) :
    ∃ sent j front rh, cn.cnSendPacketCheck d = .ok (true, sent) ∧ sent.Carried j front rh ∧
      rh.Carries [] [d.destAddress] ∧ SamePacket { d with destAddress := bce.careOfAddr } sent := by
  have ordinary' : ({ d with destAddress := bce.careOfAddr } : IPv6Datagram).Ordinary := by
    obtain ⟨copied, chained⟩ := ordinary.chained
    exact ⟨⟨copied, chained.congr rfl rfl⟩, ordinary.quiet, ordinary.message⟩
  obtain ⟨sent, j, front, rh, added, carried, carries, same⟩ :=
    addRoutingHeader_carried ordinary' ⟨routable.single, routable.fresh⟩ d.destAddress
  refine ⟨sent, j, front, rh, ?_, carried, carries, same⟩
  unfold CorrespondentNode.cnSendPacketCheck
  rw [if_neg (ne_true_of_eq_false ordinary.message), bound]
  dsimp only
  rw [assert_pos keyed, ok_bind, keyed, added]

theorem mnSendPacketCheck_optimises (tunMod : IPv6Encapsulation) (careOfAddr : Ipv6Addr)
    (registered : mn.primaryHA.isSome) (away : mn.awayFromHome = true)
    (src : d.srcAddress = mn.homeAddr) (found : mn.findBU d.destAddress = some bule)
    (apart : bule.careOfAddr ≠ bule.homeAddr) (optimises : mn.Optimises bule d) :
    mn.mnSendPacketCheck tunMod careOfAddr d = (do return (true, false, ← MobileNode.addHomeAddress bule d)) := by
  obtain ⟨ha, primary⟩ := Option.isSome_iff_exists.mp registered
  have roams : ¬ (¬ mn.awayFromHome = true ∨ d.srcAddress ≠ mn.homeAddr) := by
    rintro (atHome | other)
    · exact atHome away
    · exact other src
  unfold MobileNode.mnSendPacketCheck
  rw [primary]
  dsimp only
  rw [if_neg roams, found, if_neg (by simpa using apart), Option.filter_some,
    if_pos (decide_eq_true optimises)]

/-- A datagram that the correspondent redirects to the care-of address, and one that the mobile node
sends from it, reach the upper layers as if they had been sent without route optimisation. -/
theorem route_optimisation (tunMod : IPv6Encapsulation) (careOfAddr : Ipv6Addr)
    (bindings : BindingsMatch cn mn bce bule) (ordinary : d.Ordinary) :
    (∀ bc own n, d.deliver bc own (n + 1) = .ok (some d)) ∧
    (d.Routable → d.destAddress = mn.homeAddr →
      ∃ sent, cn.cnSendPacketCheck d = .ok (true, sent) ∧ sent.destAddress = bce.careOfAddr ∧
        ∀ arrived own n, Transferred sent arrived → 1 < arrived.hopLimit.toInt →
          own mn.homeAddr = true →
          ∃ last, arrived.deliver mn.bc own (n + 2) = .ok (some last) ∧ SamePacket d last) ∧
    (mn.primaryHA.isSome → mn.awayFromHome = true → d.srcAddress = mn.homeAddr →
      mn.findBU d.destAddress = some bule → mn.Optimises bule d →
      ∃ sent, mn.mnSendPacketCheck tunMod careOfAddr d = .ok (true, false, sent) ∧
        sent.srcAddress = bce.careOfAddr ∧
        ∀ arrived own n, Transferred sent arrived →
          ∃ last, arrived.deliver cn.bc own (n + 1) = .ok (some last) ∧ SamePacket d last) := by
  refine ⟨ordinary.delivered, fun routable dest => ?_, fun registered away src found optimises => ?_⟩
  · have keyed : bce.homeAddr = d.destAddress := bindings.homeAddr.trans dest.symm
    obtain ⟨sent, j, front, rh, checked, carried, carries, same⟩ :=
      cnSendPacketCheck_carried ordinary routable (dest.symm ▸ bindings.cached) keyed
    refine ⟨sent, checked, same.destAddress, fun arrived own n transferred limit atHome => ?_⟩
    exact carried.delivered carries same bindings.unicast.2 (dest.symm ▸ bindings.unicast.1)
      transferred limit (dest.symm ▸ atHome)
  · have home : bule.homeAddr = mn.homeAddr := optimises.2.2.2.1.trans src
    have apart : bule.careOfAddr ≠ bule.homeAddr := by
      rw [bindings.careOfAddr, home]
      exact bindings.apart
    obtain ⟨sent, j, added, optioned, same⟩ := addHomeAddress_optioned ordinary bule
    have checked := mnSendPacketCheck_optimises tunMod careOfAddr registered away src found
      apart optimises
    rw [added] at checked
    refine ⟨sent, checked, same.srcAddress.trans bindings.careOfAddr, ?_⟩
    intro arrived own n transferred
    exact optioned.delivered same ordinary.message (src.symm ▸ bindings.cached)
      bindings.careOfAddr.symm transferred

/-- A correspondent that knows the care-of address 9 of the home address 8. -/
def exampleCorrespondent : CorrespondentNode where
  bc := BindingCache.insertBinding ∅ ⟨exampleNode 8, exampleNode 9, 60, 1, false⟩
  nonces := fun _ => 0
  earlyBindingUpdate := false

/-- The mobile node's entry for the correspondent 7. -/
def exampleBule : BuEntry :=
  BuEntry.create (exampleNode 7) (exampleNode 8) (exampleNode 9) 60 1 0 false false

def exampleMobileNode : MobileNode :=
  { MobileNode.create (exampleNode 8) (exampleNode 2) with
    sendBUAckFlag := false
    bul := [exampleBule] }

def exampleTunnels : IPv6Encapsulation :=
  IPv6Encapsulation.create .empty false [64]

theorem ordinary_create (src dest : Ipv6Addr) : (create src dest).Ordinary where
  chained := ⟨False, chained_create src dest⟩
  quiet := nofun
  message := rfl

theorem route_optimisation_example :
    (∃ sent, exampleCorrespondent.cnSendPacketCheck (create (exampleNode 7) (exampleNode 8)) =
        .ok (true, sent) ∧ sent.destAddress = exampleNode 9 ∧
      ∃ last, deliver ∅ (fun a => a = exampleNode 8) 2 { sent.dup with hopLimit := 64 } =
        .ok (some last) ∧ SamePacket (create (exampleNode 7) (exampleNode 8)) last) ∧
    (∃ sent, exampleMobileNode.mnSendPacketCheck exampleTunnels (exampleNode 9)
        (create (exampleNode 8) (exampleNode 7)) = .ok (true, false, sent) ∧
      sent.srcAddress = exampleNode 9 ∧
      ∃ last, deliver exampleCorrespondent.bc (fun a => a = exampleNode 7) 1
          { sent.dup with hopLimit := 64 } = .ok (some last) ∧
        SamePacket (create (exampleNode 8) (exampleNode 7)) last) := by
  have bindings : BindingsMatch exampleCorrespondent exampleMobileNode
      ⟨exampleNode 8, exampleNode 9, 60, 1, false⟩ exampleBule :=
    ⟨StdMap.getElem?_insert_self, rfl, rfl, by decide, by decide⟩
  have moves (sent : IPv6Datagram) : Transferred sent { sent.dup with hopLimit := 64 } :=
    ⟨⟨[.dup], rfl⟩, rfl, rfl, rfl⟩
  refine ⟨?_, ?_⟩
  · obtain ⟨-, home, -⟩ := route_optimisation exampleTunnels (exampleNode 9) bindings
      (ordinary_create (exampleNode 7) (exampleNode 8))
    obtain ⟨sent, checked, dest, arrives⟩ := home ⟨nofun, nofun⟩ rfl
    have limit : 1 < (64 : BitVec 16).toInt := by decide
    exact ⟨sent, checked, dest, arrives _ (fun a => a = exampleNode 8) 0 (moves sent) limit rfl⟩
  · obtain ⟨-, -, peer⟩ := route_optimisation exampleTunnels (exampleNode 9) bindings
      (ordinary_create (exampleNode 8) (exampleNode 7))
    obtain ⟨sent, checked, src, arrives⟩ := peer rfl rfl rfl rfl (by decide +kernel)
    exact ⟨sent, checked, src, arrives _ (fun a => a = exampleNode 7) 0 (moves sent)⟩

/-- What arrives of a datagram between the addresses, with the hop limit 1. -/
def exampleArrival : Exec IPv6Datagram := do
  let (_, sent) ← exampleCorrespondent.cnSendPacketCheck (create (exampleNode 7) (exampleNode 8))
  return { sent.dup with hopLimit := 1 }

/-- A datagram with one extension header that it has from before. -/
def exampleChain (src dest : BitVec 32) (proc : HdrExtProc) : IPv6Datagram :=
  { create (exampleNode src) (exampleNode dest) with
    nextHeader := proc.type.octet
    extHdrs := [proc] }

/-- A datagram that arrives with the hop limit 1 is delivered at home and lost at the care-of address.
The headers that are added must not be there before, and no fragment header may be left. -/
theorem route_optimisation_fails :
    deliver ∅ (fun a => a = exampleNode 8) 2
        { create (exampleNode 7) (exampleNode 8) with hopLimit := 1 } =
      .ok (some { create (exampleNode 7) (exampleNode 8) with hopLimit := 1 }) ∧
    (exampleArrival >>= deliver ∅ (fun a => a = exampleNode 8) 2) = .ok none ∧
    exampleCorrespondent.cnSendPacketCheck (exampleChain 7 8
        { HdrExtProc.create .routing with rheads := [HdrExtRte.create type2RtHdr] }) =
      .error .assertFailed ∧
    exampleMobileNode.mnSendPacketCheck exampleTunnels (exampleNode 9) (exampleChain 8 7
        { HdrExtProc.create .dest with destOpts := [exampleNode 8] }) = .error .assertFailed ∧
    deliver ∅ (fun a => a = exampleNode 8) 2 (exampleChain 7 8 (HdrExtProc.create .fragment)) =
      .error .fatalError := by
  decide +kernel

end IPv6Suite
