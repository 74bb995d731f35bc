import IPv6Suite.SourceAddress

namespace IPv6Suite

open Lib

/-- `ICMPv6NDMNgbrSol` and what is read of its datagram. Without the option `srcLLAddr`
is empty. -/
structure NgbrSol where
  srcAddress : Ipv6Addr
  inputPort : Int
  targetAddr : Ipv6Addr
  srcLLAddr : String
deriving DecidableEq

/-- `ICMPv6NDMNgbrAd` and what is read of its datagram. Without the option
`targetLLAddr` is empty. -/
structure NgbrAd where
  srcAddress : Ipv6Addr
  inputPort : Nat
  targetLLAddr : String
  isRouter : Bool
  solicited : Bool
  override : Bool
deriving DecidableEq

namespace NeighbourEntry

def create (addr : Ipv6Addr) (ifaceNo : Nat) : NeighbourEntry where
  unicastAddr := addr
  llAddress := ""
  interfaceNo := ifaceNo
  isRouter := false
  state := .incomplete

def ofNgbrSol (ns : NgbrSol) : NeighbourEntry where
  unicastAddr := ns.srcAddress
  llAddress := ns.srcLLAddr
  interfaceNo := ns.inputPort.toNat
  isRouter := false
  state := .stale

def updateNgbrSol (ns : NgbrSol) (ne : NeighbourEntry) : NeighbourEntry :=
  if ne.llAddress ≠ ns.srcLLAddr then { ne with llAddress := ns.srcLLAddr, state := .stale } else ne

/-- `update(na)`, with whether pending packets should be sent. -/
def updateNgbrAd (na : NgbrAd) (ne : NeighbourEntry) : Bool × NeighbourEntry :=
  if ne.state = .incomplete then
    if na.targetLLAddr = "" then (false, ne)
    else
      (true,
        { ne with
          llAddress := na.targetLLAddr
          state := if na.solicited then .reachable else .stale
          isRouter := na.isRouter })
  else
    let differs := na.targetLLAddr ≠ "" ∧ na.targetLLAddr ≠ ne.llAddress
    if ¬ na.override ∧ differs then
      (false, { ne with state := if ne.state = .reachable then .stale else ne.state })
    else
      let state := if na.solicited then .reachable else if differs then .stale else ne.state
      (state = .reachable,
        { ne with
          llAddress := if differs then na.targetLLAddr else ne.llAddress
          state
          isRouter := na.isRouter })

end NeighbourEntry

/-- `retransTimer`, in milliseconds, is a member of `ipv6()`. -/
structure InterfaceEntry where
  llAddrStr : String
  ipv6 : IPv6InterfaceData
  retransTimer : Nat
deriving DecidableEq

/-- `msg` is the time that the message of the timer is scheduled for, none for a null
pointer. `srcLLAddr` is the option of the solicitation that `dgram` encapsulates. -/
structure NDARTimer where
  ptr : Ptr
  targetAddr : Ipv6Addr
  dgram : IPv6Datagram
  srcLLAddr : String
  counter : Nat
  ifIndex : Nat
  msg : Option SimTime
deriving DecidableEq

def maxMulticastSolicit : Nat := 3

/-- `NDHOPLIMIT` -/
def ndHopLimit : BitVec 16 := 255

def Ipv6Addr.solNodeAddr (addr : Ipv6Addr) : Ipv6Addr :=
  ⟨0xFF020000, 0, 1, addr.low ||| 0xFF000000⟩

def Ipv6Addr.allNodesLink : Ipv6Addr := ⟨0xFF020000, 0, 0, 1⟩

namespace NDARTimer

/-- The timer that is set up for a pending datagram from `srcAddress`. -/
def create (ptr : Ptr) (targetAddr : Ipv6Addr) (ifIndex : Nat) (srcAddress : Ipv6Addr) :
    NDARTimer where
  ptr
  targetAddr
  dgram := { IPv6Datagram.create srcAddress targetAddr.solNodeAddr with hopLimit := ndHopLimit }
  srcLLAddr := ""
  counter := 0
  ifIndex
  msg := none

def dup (tmr : NDARTimer) (ptr : Ptr) (ifIndex : Nat) : NDARTimer where
  ptr
  targetAddr := tmr.targetAddr
  dgram := tmr.dgram.dup
  srcLLAddr := tmr.srcLLAddr
  counter := 0
  ifIndex
  msg := none

/-- The source address of the solicitation is one of the interface. -/
def chooseSource (tmr : NDARTimer) (ie : InterfaceEntry) : Option NDARTimer :=
  if ie.ipv6.addrAssigned tmr.dgram.srcAddress then some tmr
  else
    ie.ipv6.inetAddrs.head?.map fun addr =>
      { tmr with dgram := { tmr.dgram with srcAddress := addr.addr } }

end NDARTimer

/-- What `AddressResolution` sends. -/
inductive AddrResOutput where
  | ngbrSol (datagram : IPv6Datagram) (targetAddr : Ipv6Addr) (srcLLAddr : String) (ifIndex : Nat)
  | ngbrAd (datagram : IPv6Datagram) (targetAddr : Ipv6Addr) (targetLLAddr : String)
      (isRouter solicited override : Bool) (ifIndex : Nat) (destLLAddr : Option String)
  | fragmentationOut (datagram : IPv6Datagram) (info : AddrResInfo)
  | destUnreachable (datagram : IPv6Datagram)
deriving DecidableEq

/-- The module with what it reads of its node. Equal keys of `ppq` stay in the order of
their insertion, and no function depends on the order of different keys. -/
structure AddressResolution where
  cds : IPv6CDS
  interfaces : List InterfaceEntry
  isRouter : Bool
  odad : Bool
  ppq : List (Ipv6Addr × IPv6Datagram)
  tmrs : List NDARTimer
  next : Ptr
  sent : List AddrResOutput

/-- The iterators that the loop of `failedAddrRes` finds, none for `tmrs.end()`. -/
structure TimerScan where
  finalTimer : Bool
  thisTmr : Option Ptr
  startRemove : Option Ptr

/-- The loop of `failedAddrRes`. It ends early at another timer once it has found `tmr`. -/
def TimerScan.loop (tmr : NDARTimer) (scan : TimerScan) : List NDARTimer → TimerScan
  | [] => scan
  | it :: rest =>
      if it.targetAddr = tmr.targetAddr then
        if it.ptr = tmr.ptr then loop tmr { scan with thisTmr := some it.ptr } rest
        else if it.msg = none then loop tmr { scan with startRemove := some it.ptr } rest
        else if scan.thisTmr.isSome then { scan with finalTimer := false }
        else loop tmr { scan with finalTimer := false } rest
      else loop tmr scan rest

/-- The loop of `processNgbrAd` once it has found a marker: the timers that follow it are
cancelled. `cancelEvent` of a null pointer is an error. -/
def cancelPromiscuous (src : Ipv6Addr) : List NDARTimer → Exec (List NDARTimer)
  | [] => .ok []
  | it :: rest =>
      if it.targetAddr = src then do
        let _ ← Exec.deref .fatalError it.msg
        cancelPromiscuous src rest
      else .ok (it :: rest)

/-- The loop of `processNgbrAd` over the timers. -/
def cancelAddrRes (src : Ipv6Addr) : List NDARTimer → Exec (List NDARTimer)
  | [] => .ok []
  | it :: rest =>
      if it.targetAddr = src then
        if it.ifIndex = uintMax then do
          Exec.assert (it.msg = none)
          cancelPromiscuous src rest
        else do
          let _ ← Exec.deref .fatalError it.msg
          return rest
      else do return it :: (← cancelAddrRes src rest)

namespace AddressResolution

def queued (s : AddressResolution) (addr : Ipv6Addr) : List IPv6Datagram :=
  (s.ppq.filter (·.1 = addr)).map (·.2)

def eraseQueued (s : AddressResolution) (addr : Ipv6Addr) : AddressResolution :=
  { s with ppq := s.ppq.filter (·.1 ≠ addr) }

def eraseTmr (s : AddressResolution) (it : Option Ptr) : AddressResolution :=
  match it with
  | some p => { s with tmrs := s.tmrs.eraseP (·.ptr = p) }
  | none => s

def interfaceTable (s : AddressResolution) : InterfaceTable := ⟨s.interfaces.map (·.ipv6), lo0⟩

def determineSrcAddress (s : AddressResolution) (dest : Ipv6Addr) (ifIndex : Nat) : Exec Ipv6Addr :=
  s.interfaceTable.determineSrcAddress s.odad s.cds.defaultRouter.isSome dest ifIndex

/-- The body of the loop in `sendQueuedPackets`. A datagram without a source address is
deleted. -/
def sendQueuedPacket (s : AddressResolution) (src : Ipv6Addr) (ifIndex : Nat) (ne : NeighbourEntry)
    (p : IPv6Datagram) : Exec (Option AddrResOutput) := do
  let srcAddress ← (if p.srcAddress = .unspecified then s.determineSrcAddress p.destAddress ifIndex
    else .ok p.srcAddress)
  if srcAddress = .unspecified then return none
  else do
    Exec.assert (¬ (p.srcAddress = .unspecified ∧ s.odad))
    Exec.assert (ne.llAddress ≠ "")
    return some (.fragmentationOut { p with srcAddress, outputPort := ifIndex }
      { AddrResInfo.create with nextHop := src, ifIndex, linkLayerAddr := ne.llAddress })

def sendQueuedPackets (s : AddressResolution) (src : Ipv6Addr) (ifIndex : Nat)
    (ne : NeighbourEntry) : Exec AddressResolution := do
  let sent ← (s.queued src).mapM (s.sendQueuedPacket src ifIndex ne)
  return { s.eraseQueued src with sent := s.sent ++ sent.filterMap id }

/-- The error that `failedAddrRes` sends for a pending datagram. -/
def destUnreachable (ie : Option InterfaceEntry) (p : IPv6Datagram) : Exec AddrResOutput :=
  if p.srcAddress = .unspecified then do
    let ie ← Exec.deref .nullDeref ie
    let addr ← Exec.deref .outOfBounds ie.ipv6.inetAddrs[0]?
    return .destUnreachable { p with srcAddress := addr.addr }.dup
  else .ok (.destUnreachable p.dup)

/-- The pending datagrams go back once no other timer is left for their next hop. The
comparison with `*tmrs.end()` is taken to fail. -/
def failedAddrRes (s : AddressResolution) (now : SimTime) (tmr : NDARTimer) :
    Exec AddressResolution :=
  let nextHop := tmr.targetAddr
  let scan := TimerScan.loop tmr ⟨true, none, none⟩ s.tmrs
  let s := s.eraseTmr scan.thisTmr
  if scan.finalTimer then do
    let s := s.eraseTmr scan.startRemove
    let cds := if 5 < now then s.cds.removeDestEntryByNeighbour nextHop else s.cds
    let sent ← (s.queued nextHop).mapM (destUnreachable s.interfaces[tmr.ifIndex]?)
    return { s.eraseQueued nextHop with cds, sent := s.sent ++ sent }
  else .ok s

/-- The next solicitation of a timer in the list, or the end of the resolution. -/
def retransmit (s : AddressResolution) (now : SimTime) (tmr : NDARTimer) :
    Exec AddressResolution :=
  if tmr.counter < maxMulticastSolicit then do
    let ie ← Exec.deref .nullDeref s.interfaces[tmr.ifIndex]?
    let restart (it : NDARTimer) : NDARTimer :=
      { it with counter := it.counter + 1, msg := some (now + ie.retransTimer / 1000) }
    return { s with
      tmrs := s.tmrs.map fun it => if it.ptr = tmr.ptr then restart it else it
      sent := s.sent ++ [.ngbrSol tmr.dgram.dup tmr.targetAddr tmr.srcLLAddr tmr.ifIndex] }
  else s.failedAddrRes now tmr

/-- Optimistic nodes must not solicit from a tentative address. -/
def assertNotTentative (s : AddressResolution) (tmr : NDARTimer) : Exec Unit :=
  if s.odad ∧ tmr.dgram.srcAddress ≠ .unspecified then do
    let ie ← Exec.deref .nullDeref s.interfaces[tmr.ifIndex]?
    Exec.assert (ie.ipv6.tentativeAddrAssigned tmr.dgram.srcAddress = false)
  else .ok ()

/-- A timer without a message is new: it gets one and joins the list, unless its
interface has no address. -/
def sendNgbrSol (s : AddressResolution) (now : SimTime) (tmr : NDARTimer) :
    Exec AddressResolution := do
  s.assertNotTentative tmr
  match tmr.msg with
  | some _ => s.retransmit now tmr
  | none => do
      let ie ← Exec.deref .nullDeref s.interfaces[tmr.ifIndex]?
      match tmr.chooseSource ie with
      | none => s.failedAddrRes now tmr
      | some tmr =>
          let tmr := { tmr with srcLLAddr := ie.llAddrStr, msg := some now }
          { s with tmrs := s.tmrs ++ [tmr] }.retransmit now tmr

/-- Without a known interface all of them are tried, after a marker that has no message. -/
def initiateNgbrSol (s : AddressResolution) (now : SimTime) (tmr : NDARTimer) :
    Exec AddressResolution :=
  if tmr.ifIndex = uintMax then
    (List.range s.interfaces.length).foldlM
      (fun s ifIndex => { s with next := s.next + 1 }.sendNgbrSol now (tmr.dup s.next ifIndex))
      { s with tmrs := s.tmrs ++ [tmr] }
  else s.sendNgbrSol now tmr

/-- A host takes its default router for a next hop without a neighbour. For another next
hop `nextHop()` is called on the `AddrResInfo` deleted before. -/
def defaultRouterNeighbour (s : AddressResolution) (targetAddr : Ipv6Addr) :
    Exec (Option Ptr × AddressResolution) :=
  let ngbr := s.cds.neighbour targetAddr
  if s.isRouter = false ∧ (s.cds.lock ngbr).isNone then
    match s.cds.defaultRouter with
    | some (p, re) =>
        if re.unicastAddr = targetAddr then
          let de := (s.cds.findDestEntry targetAddr).getD {}
          .ok (some p, { s with cds := s.cds.setDestEntry targetAddr { de with neighbour := some p } })
        else .error .nullDeref
    | none => .ok (ngbr, s)
  else .ok (ngbr, s)

def nextHopNeighbour (s : AddressResolution) (targetAddr : Ipv6Addr) (ifIndex : Nat) :
    Exec (Option Ptr × AddressResolution) := do
  let (ngbr, s) ← s.defaultRouterNeighbour targetAddr
  let ngbr := if (s.cds.lock ngbr).isNone then (s.cds.router targetAddr).map (·.1) else ngbr
  if (s.cds.lock ngbr).isNone then
    let cds := s.cds.insertNeighbourEntry (.create targetAddr ifIndex)
    return (cds.neighbour targetAddr, { s with cds })
  else return (ngbr, s)

/-- The part of `handleMessage` for a datagram whose next hop is not resolved. -/
def pendingQueueIn (s : AddressResolution) (now : SimTime) (dgram : IPv6Datagram)
    (addrResInfo : AddrResInfo) : Exec AddressResolution := do
  let nextHop := addrResInfo.nextHop
  Exec.assert (dgram.destAddress ≠ .unspecified ∧ nextHop ≠ .unspecified)
  let s : AddressResolution := { s with ppq := s.ppq ++ [(nextHop, dgram)] }
  if 1 < (s.queued nextHop).length then return s
  else do
    let (ngbr, s) ← s.nextHopNeighbour nextHop addrResInfo.ifIndex
    let ne ← Exec.deref .nullDeref (s.cds.lock ngbr)
    if ne.state ≠ .incomplete then s.sendQueuedPackets ne.unicastAddr ne.interfaceNo ne
    else
      let tmr := NDARTimer.create s.next nextHop addrResInfo.ifIndex dgram.srcAddress
      { s with next := s.next + 1 }.initiateNgbrSol now tmr

def liveNeighbour (s : AddressResolution) (addr : Ipv6Addr) : Option (Ptr × NeighbourEntry) :=
  (s.cds.neighbour addr).bind fun p => (s.cds.deref p).map fun ne => (p, ne)

/-- What a solicitation says about its sender, with the neighbour that was waiting for it. -/
def updateSender (s : AddressResolution) (ngbrSol : NgbrSol) :
    Exec (Option Ptr × AddressResolution) :=
  let src := ngbrSol.srcAddress
  if src = .unspecified ∨ ngbrSol.srcLLAddr = "" then .ok (none, s)
  else
    match s.liveNeighbour src with
    | some (p, ne) =>
        .ok (if ne.state = .incomplete then some p else none,
          { s with cds := s.cds.modify p (·.updateNgbrSol ngbrSol) })
    | none =>
        match s.cds.router src with
        | some (p, _) => do
            let de := (s.cds.findDestEntry src).getD {}
            let cds := s.cds.setDestEntry src { de with neighbour := some p }
            Exec.assert (s.queued src = [])
            return (none, { s with cds := cds.modify p (·.updateNgbrSol ngbrSol) })
        | none => .ok (none, { s with cds := s.cds.insertNeighbourEntry (.ofNgbrSol ngbrSol) })

/-- The advertisement that answers a solicitation. -/
def sendNgbrAd (s : AddressResolution) (ngbrSol : NgbrSol) (ie : InterfaceEntry) (override : Bool) :
    Exec AddressResolution := do
  let dupDetectSource : Bool := ngbrSol.srcAddress = .unspecified
  let dest := if dupDetectSource then Ipv6Addr.allNodesLink else ngbrSol.srcAddress
  let response : IPv6Datagram :=
    { IPv6Datagram.create ngbrSol.targetAddr dest with hopLimit := ndHopLimit }
  Exec.assert (dupDetectSource ∨ ngbrSol.srcLLAddr ≠ "" ∧ ngbrSol.targetAddr.isMulticast = false)
  return { s with
    sent := s.sent ++ [.ngbrAd response ngbrSol.targetAddr ie.llAddrStr s.isRouter
      (! dupDetectSource) override ngbrSol.inputPort.toNat
      (if dupDetectSource then none else some ngbrSol.srcLLAddr)] }

/-- Without an address to answer for, the pending datagrams are left in the queue. -/
def processNgbrSol (s : AddressResolution) (ngbrSol : NgbrSol) : Exec AddressResolution := do
  Exec.assert (-1 < ngbrSol.inputPort ∧ ngbrSol.inputPort < s.interfaces.length)
  let ie ← Exec.deref .nullDeref s.interfaces[ngbrSol.inputPort.toNat]?
  let (waiting, s) ← s.updateSender ngbrSol
  let assigned := ie.ipv6.addrAssigned ngbrSol.targetAddr
  if assigned ∨ s.odad ∧ ie.ipv6.tentativeAddrAssigned ngbrSol.targetAddr then do
    let s ← s.sendNgbrAd ngbrSol ie assigned
    match waiting with
    | none => return s
    | some p => do
        let ne ← Exec.deref .useAfterFree (s.cds.deref p)
        s.sendQueuedPackets ngbrSol.srcAddress ngbrSol.inputPort.toNat ne
  else return s

def processNgbrAd (s : AddressResolution) (ngbrAdv : NgbrAd) : Exec AddressResolution :=
  let src := ngbrAdv.srcAddress
  match s.liveNeighbour src with
  | none => .ok s
  | some (p, ne) =>
      let (sendPending, ne) := ne.updateNgbrAd ngbrAdv
      if sendPending then do
        let ne := { ne with interfaceNo := ngbrAdv.inputPort }
        let s := { s with cds := s.cds.modify p fun _ => ne }
        let s ← s.sendQueuedPackets src ngbrAdv.inputPort ne
        let tmrs ← cancelAddrRes src s.tmrs
        return { s with tmrs }
      else .ok { s with cds := s.cds.modify p fun _ => ne }

end AddressResolution

/-- The next object is new: no pointer of the structures is its. -/
structure IPv6CDS.Fresh (cds : IPv6CDS) : Prop where
  routers : ∀ r ∈ cds.routers, r.1 < cds.next
  neighbours : ∀ (addr : Ipv6Addr) (n : Ptr × NeighbourEntry),
    cds.neighbourCache[addr]? = some n → n.1 < cds.next
  held : ∀ n ∈ cds.held, n.1 < cds.next

/-- What `AddressResolution` handles, and what the other modules of the node change. -/
inductive AddrResEvent where
  | pendingQueueIn (dgram : IPv6Datagram) (addrResInfo : AddrResInfo)
  | ngbrSol (ngbrSol : NgbrSol)
  | ngbrAd (ngbrAdv : NgbrAd)
  | timeout (tmr : Ptr)
  | node (cds : IPv6CDS) (fresh : cds.Fresh) (interfaces : List InterfaceEntry)

namespace AddressResolution

/-- `handleMessage` at a time. The timeouts come in any order; only the message of a timer
that still exists can arrive. -/
def handleMessage (s : AddressResolution) (msg : SimTime × AddrResEvent) : Exec AddressResolution :=
  match msg.2 with
  | .pendingQueueIn dgram addrResInfo => s.pendingQueueIn msg.1 dgram addrResInfo
  | .ngbrSol ngbrSol => s.processNgbrSol ngbrSol
  | .ngbrAd ngbrAdv => s.processNgbrAd ngbrAdv
  | .timeout p => do
      let tmr ← Exec.deref .useAfterFree (s.tmrs.find? fun it => it.ptr = p ∧ it.msg.isSome)
      s.sendNgbrSol msg.1 tmr
  | .node cds _ interfaces => .ok { s with cds, interfaces }

end AddressResolution

end IPv6Suite
