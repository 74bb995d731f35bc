import IPv6Suite.AddressResolution

namespace IPv6Suite

open Lib

/-- How the branch `pendingQueueIn` of `handleMessage` can end early: `AddrResInfo` is read after it was deleted, or
something else goes wrong. -/
inductive PendingFault where
  | readReleased
  | other (fault : Fault)
deriving DecidableEq

/-- The pointer is null after `delete`. -/
def PendingFault.fault : PendingFault → Fault
  | readReleased => .nullDeref
  | other fault => fault

abbrev PendingExec (α : Type) := Except PendingFault α

namespace PendingExec

variable {α β : Type}

def lift (r : Exec α) : PendingExec α := r.mapError .other

/-- `addrResInfo->` -/
def info (addrResInfo : Option AddrResInfo) : PendingExec AddrResInfo :=
  match addrResInfo with
  | some addrResInfo => .ok addrResInfo
  | none => .error .readReleased

/-- Without telling the faults apart -/
def forget (r : PendingExec α) : Exec α := r.mapError (·.fault)

@[simp] theorem forget_lift (r : Exec α) : forget (lift r) = r := by
  cases r with
  | ok value => rfl
  | error fault => rfl

theorem forget_bind (r : PendingExec α) (next : α → PendingExec β) :
    forget (r >>= next) = forget r >>= fun value => forget (next value) := by
  cases r with
  | ok value => rfl
  | error fault => rfl

theorem lift_ne_readReleased (r : Exec α) : lift r ≠ .error .readReleased := by
  cases r with
  | ok value => exact nofun
  | error fault => exact nofun

/-- A fault that nothing after it can cause comes from before. -/
theorem bind_eq_readReleased {r : PendingExec α} {next : α → PendingExec β} : r >>= next = .error .readReleased ↔
      r = .error .readReleased ∨ ∃ value, r = .ok value ∧ next value = .error .readReleased := by
  cases r with
  | ok value =>
      constructor
      · intro fails
        exact .inr ⟨value, rfl, fails⟩
      · rintro (fails | ⟨_, returns, fails⟩)
        · cases fails
        · cases returns
          exact fails
  | error fault =>
      constructor
      · intro fails
        cases fails
        exact .inl rfl
      · rintro (fails | ⟨_, returns, _⟩)
        · cases fails
          rfl
        · cases returns

end PendingExec

namespace AddressResolution

/-- `defaultRouterNeighbour` with the pointer to the `AddrResInfo` as it is there, and the other router of a next hop
that is not the destination. -/
def defaultRouterTraced (s : AddressResolution) (dgram : IPv6Datagram) (targetAddr : Ipv6Addr)
    (addrResInfo : Option AddrResInfo) : PendingExec (Option Ptr × AddressResolution) :=
  let ngbr := s.cds.neighbour targetAddr
  let point (p : Ptr) : Option Ptr × AddressResolution :=
    let de := (s.cds.findDestEntry targetAddr).getD {}
    (some p, { s with cds := s.cds.setDestEntry targetAddr { de with neighbour := some p } })
  if s.isRouter = false ∧ (s.cds.lock ngbr).isNone then
    match s.cds.defaultRouter with
    | some (p, re) =>
        if re.unicastAddr = targetAddr then .ok (point p)
        else do
          let addrResInfo ← PendingExec.info addrResInfo
          if dgram.destAddress ≠ addrResInfo.nextHop then return point p
          else return (ngbr, s)
    | none => .ok (ngbr, s)
  else .ok (ngbr, s)

def nextHopTraced (s : AddressResolution) (dgram : IPv6Datagram) (targetAddr : Ipv6Addr) (ifIndex : Nat)
    (addrResInfo : Option AddrResInfo) : PendingExec (Option Ptr × AddressResolution) := do
  let (ngbr, s) ← s.defaultRouterTraced dgram targetAddr addrResInfo
  let ngbr := if (s.cds.lock ngbr).isNone then (s.cds.router targetAddr).map (·.1) else ngbr
  if (s.cds.lock ngbr).isNone then
    let cds := s.cds.insertNeighbourEntry (.create targetAddr ifIndex)
    return (cds.neighbour targetAddr, { s with cds })
  else return (ngbr, s)

/-- `pendingQueueIn` with the pointer to the `AddrResInfo`, which is deleted once the timer has been filled in. -/
def pendingQueueTraced (s : AddressResolution) (now : SimTime) (dgram : IPv6Datagram)
    (addrResInfo : Option AddrResInfo) : PendingExec AddressResolution := do
  let nextHop := (← PendingExec.info addrResInfo).nextHop
  PendingExec.lift (Exec.assert (dgram.destAddress ≠ .unspecified ∧ nextHop ≠ .unspecified))
  let s : AddressResolution := { s with ppq := s.ppq ++ [(nextHop, dgram)] }
  if 1 < (s.queued nextHop).length then return s
  else do
    let ifIndex := (← PendingExec.info addrResInfo).ifIndex
    let addrResInfo : Option AddrResInfo := none
    let (ngbr, s) ← s.nextHopTraced dgram nextHop ifIndex addrResInfo
    let ne ← PendingExec.lift (Exec.deref .nullDeref (s.cds.lock ngbr))
    if ne.state ≠ .incomplete then PendingExec.lift (s.sendQueuedPackets ne.unicastAddr ne.interfaceNo ne)
    else
      let tmr := NDARTimer.create s.next nextHop ifIndex dgram.srcAddress
      PendingExec.lift ({ s with next := s.next + 1 }.initiateNgbrSol now tmr)

variable {s : AddressResolution} {now : SimTime} {dgram : IPv6Datagram} {addrResInfo : AddrResInfo}

/-- With the pointer deleted the two agree. -/
theorem defaultRouterTraced_forget (s : AddressResolution) (dgram : IPv6Datagram) (targetAddr : Ipv6Addr) :
    PendingExec.forget (s.defaultRouterTraced dgram targetAddr none) = s.defaultRouterNeighbour targetAddr := by
  unfold defaultRouterTraced defaultRouterNeighbour
  dsimp only
  split
  · cases first : s.cds.defaultRouter with
    | none => rfl
    | some router =>
        dsimp only
        split
        · rfl
        · rfl
  · rfl

theorem nextHopTraced_forget (s : AddressResolution) (dgram : IPv6Datagram) (targetAddr : Ipv6Addr) (ifIndex : Nat) :
    PendingExec.forget (s.nextHopTraced dgram targetAddr ifIndex none) = s.nextHopNeighbour targetAddr ifIndex := by
  unfold nextHopTraced nextHopNeighbour
  rw [PendingExec.forget_bind, defaultRouterTraced_forget]
  congr 1
  funext found
  dsimp only
  generalize (if (found.2.cds.lock found.1).isNone then _ else found.1) = ngbr
  split
  · rfl
  · rfl

/-- The traced branch is `pendingQueueIn`, with the faults told apart. -/
theorem pendingQueueTraced_forget (s : AddressResolution) (now : SimTime) (dgram : IPv6Datagram)
    (addrResInfo : AddrResInfo) : PendingExec.forget (s.pendingQueueTraced now dgram (some addrResInfo)) =
      s.pendingQueueIn now dgram addrResInfo := by
  unfold pendingQueueTraced pendingQueueIn
  show PendingExec.forget (PendingExec.lift _ >>= _) = _
  rw [PendingExec.forget_bind, PendingExec.forget_lift]
  congr 1
  funext _
  dsimp only
  split
  · rfl
  · show PendingExec.forget (nextHopTraced _ dgram _ _ none >>= _) = _
    rw [PendingExec.forget_bind, nextHopTraced_forget]
    congr 1
    funext found
    rw [PendingExec.forget_bind, PendingExec.forget_lift]
    congr 1
    funext ne
    split
    · rw [PendingExec.forget_lift]
    · rw [PendingExec.forget_lift]

/-- Nothing is pending for the next hop, which has no live neighbour, and the node is a host whose default router is
another one. -/
structure Misdirected (s : AddressResolution) (nextHop : Ipv6Addr) : Prop where
  first : s.queued nextHop = []
  host : s.isRouter = false
  unresolved : (s.cds.lock (s.cds.neighbour nextHop)).isNone = true
  elsewhere : ∃ p re, s.cds.defaultRouter = some (p, re) ∧ re.unicastAddr ≠ nextHop

theorem defaultRouterTraced_reads_iff {targetAddr : Ipv6Addr} :
    s.defaultRouterTraced dgram targetAddr none = .error .readReleased ↔
      s.isRouter = false ∧ (s.cds.lock (s.cds.neighbour targetAddr)).isNone = true ∧
        ∃ p re, s.cds.defaultRouter = some (p, re) ∧ re.unicastAddr ≠ targetAddr := by
  unfold defaultRouterTraced
  dsimp only
  split
  · rename_i dead
    cases first : s.cds.defaultRouter with
    | none =>
        apply iff_of_false nofun
        rintro ⟨_, _, p, re, there, _⟩
        cases there
    | some router =>
        obtain ⟨p, re⟩ := router
        dsimp only
        split
        · rename_i target
          apply iff_of_false nofun
          rintro ⟨_, _, _, _, there, other⟩
          cases there
          exact other target
        · rename_i other
          exact iff_of_true rfl ⟨dead.1, dead.2, p, re, rfl, other⟩
  · rename_i alive
    apply iff_of_false nofun
    rintro ⟨host, unresolved, _⟩
    exact alive ⟨host, unresolved⟩

theorem nextHopTraced_reads_iff {targetAddr : Ipv6Addr} {ifIndex : Nat} :
    s.nextHopTraced dgram targetAddr ifIndex none = .error .readReleased ↔
      s.defaultRouterTraced dgram targetAddr none = .error .readReleased := by
  unfold nextHopTraced
  rw [PendingExec.bind_eq_readReleased, or_iff_left]
  rintro ⟨found, -, fails⟩
  dsimp only at fails
  generalize (if (found.2.cds.lock found.1).isNone then _ else found.1) = ngbr at fails
  split at fails
  · cases fails
  · cases fails

theorem queued_pending (nextHop : Ipv6Addr) :
    1 < ({ s with ppq := s.ppq ++ [(nextHop, dgram)] }.queued nextHop).length ↔ s.queued nextHop ≠ [] := by
  have split : { s with ppq := s.ppq ++ [(nextHop, dgram)] }.queued nextHop = s.queued nextHop ++ [dgram] := by
    simp [queued]
  rw [split, List.length_append, List.length_singleton, ← List.length_pos_iff]
  omega

/-- The `AddrResInfo` is read after it was deleted exactly for a datagram that is the first to be pending for a next
hop without a neighbour, on a host whose default router is another node. -/
theorem pendingQueueIn_releases_iff (s : AddressResolution) (now : SimTime) (dgram : IPv6Datagram)
    (addrResInfo : AddrResInfo) :
    s.pendingQueueTraced now dgram (some addrResInfo) ≠ .error .readReleased ↔
      ¬ (dgram.destAddress ≠ .unspecified ∧ addrResInfo.nextHop ≠ .unspecified ∧
        s.Misdirected addrResInfo.nextHop) := by
  rw [ne_eq, not_iff_not]
  unfold pendingQueueTraced
  show PendingExec.lift _ >>= _ = _ ↔ _
  rw [PendingExec.bind_eq_readReleased, or_iff_right (PendingExec.lift_ne_readReleased _)]
  constructor
  · rintro ⟨_, asserted, fails⟩
    have specified : dgram.destAddress ≠ .unspecified ∧ addrResInfo.nextHop ≠ .unspecified := by
      by_contra unspecified
      rw [assert_neg unspecified] at asserted
      cases asserted
    dsimp only at fails
    split at fails
    · cases fails
    · rename_i alone
      rw [queued_pending, not_not] at alone
      change nextHopTraced _ dgram _ _ none >>= _ = _ at fails
      rcases PendingExec.bind_eq_readReleased.mp fails with reads | ⟨found, -, fails⟩
      · rw [nextHopTraced_reads_iff, defaultRouterTraced_reads_iff] at reads
        exact ⟨specified.1, specified.2, alone, reads.1, reads.2.1, reads.2.2⟩
      · rcases PendingExec.bind_eq_readReleased.mp fails with fails | ⟨ne, -, fails⟩
        · exact absurd fails (PendingExec.lift_ne_readReleased _)
        · split at fails
          · exact absurd fails (PendingExec.lift_ne_readReleased _)
          · exact absurd fails (PendingExec.lift_ne_readReleased _)
  · rintro ⟨dest, hop, alone, host, unresolved, elsewhere⟩
    refine ⟨(), by rw [assert_pos ⟨dest, hop⟩]; rfl, ?_⟩
    dsimp only
    rw [if_neg (by rw [queued_pending, not_not]; exact alone)]
    change nextHopTraced _ dgram _ _ none >>= _ = _
    rw [PendingExec.bind_eq_readReleased, nextHopTraced_reads_iff, defaultRouterTraced_reads_iff]
    exact .inl ⟨host, unresolved, elsewhere⟩

def routedHost : AddressResolution where
  cds :=
    { IPv6CDS.empty with
      routers := [(0, { RouterEntry.create ⟨0xFE800000, 0, 0, 3⟩ 0 (some "00:03") 1800 with state := .reachable })]
      next := 1 }
  interfaces := []
  isRouter := false
  odad := false
  ppq := []
  tmrs := []
  next := 0
  sent := []

/-- A datagram for a node on the link is the first one for it. -/
theorem routedHost_reads_released :
    routedHost.pendingQueueTraced 1 (IPv6Datagram.create ⟨0xFE800000, 0, 0, 7⟩ ⟨0xFE800000, 0, 0, 2⟩)
      (some ⟨⟨0xFE800000, 0, 0, 2⟩, 0, "", -2⟩) = .error .readReleased := by
  rfl

end AddressResolution

end IPv6Suite
