import IPv6Suite.IPv6CDS
import IPv6Suite.IPv6Datagram
import IPv6Suite.IPv6InterfaceData

namespace IPv6Suite

open Lib

def uintMax : Nat := 4294967295

/-- What next hop determination found out about a datagram. -/
structure AddrResInfo where
  nextHop : Ipv6Addr
  ifIndex : Nat
  linkLayerAddr : String
  status : Int
deriving DecidableEq

def AddrResInfo.create : AddrResInfo := ⟨.unspecified, 0, "", 0⟩

/-- What `IPv6Forward` reads of its node. `careOfAddr` is the care-of address of a mobile
node that is away from home. -/
structure ForwardNode where
  cds : IPv6CDS
  interfaces : List IPv6InterfaceData
  multicastGroup : List Ipv6Addr
  isRouter : Bool
  routeSitePackets : Bool
  odad : Bool
  careOfAddr : Option Ipv6Addr

namespace ForwardNode

def numInterfaceGates (node : ForwardNode) : Nat := node.interfaces.length

def localDeliver (node : ForwardNode) (dest : Ipv6Addr) : Bool :=
  if dest.isMulticast then node.multicastGroup.contains dest
  else node.interfaces.any fun data =>
    data.addrAssigned dest || node.odad && data.tentativeAddrAssigned dest

/-- The end of `conceptualSending`, for the neighbour found. -/
def sendingInfo (ne : NeighbourEntry) (info : AddrResInfo) : AddrResInfo :=
  let info := { info with nextHop := ne.unicastAddr, ifIndex := ne.interfaceNo }
  if ne.state = .incomplete then { info with status := -2 }
  else { info with linkLayerAddr := ne.llAddress, status := 0 }

/-- Next hop determination. The default router becomes the neighbour of the destination. -/
def conceptualSending (node : ForwardNode) (dgram : IPv6Datagram) (info : AddrResInfo) :
    AddrResInfo × IPv6CDS :=
  let cds := node.cds
  let dest := dgram.destAddress
  match cds.lock (if node.isRouter then cds.lookupDestination dest else cds.neighbour dest) with
  | some ne => (sendingInfo ne info, cds)
  | none =>
      match cds.lookupAddress dest with
      | some ifIndex => ({ info with ifIndex, nextHop := dest, status := -2 }, cds)
      | none =>
          match cds.defaultRouter with
          | some (p, re) =>
              let de := (cds.findDestEntry dest).getD {}
              (sendingInfo re.toNeighbourEntry info,
                cds.setDestEntry dest { de with neighbour := some p })
          | none =>
              let ifIndex := if 1 < node.numInterfaceGates then uintMax else 0
              ({ info with ifIndex, nextHop := dest, status := if ifIndex ≠ 0 then -1 else -2 }, cds)

end ForwardNode

/-- What `IPv6Forward` sends, by gate. -/
inductive ForwardOutput where
  | localOut (datagram : IPv6Datagram)
  | tunnelEntry (datagram : IPv6Datagram)
  | multicastOut (datagram : IPv6Datagram)
  | pendingQueueOut (datagram : IPv6Datagram) (info : AddrResInfo)
  | fragmentationOut (datagram : IPv6Datagram) (info : AddrResInfo)
  | timeExceeded (datagram : IPv6Datagram)
  | redirect (datagram : IPv6Datagram) (dest : Ipv6Addr) (linkLayerAddr : String)
deriving DecidableEq

def ForwardOutput.onward : ForwardOutput → Option IPv6Datagram
  | tunnelEntry datagram => some datagram
  | multicastOut datagram => some datagram
  | pendingQueueOut datagram _ => some datagram
  | fragmentationOut datagram _ => some datagram
  | localOut _ | timeExceeded _ | redirect _ _ _ => none

/-- What was sent before the service ended, and the fault that ended it early. -/
structure ForwardResult where
  sent : List ForwardOutput
  fault : Option Fault
deriving DecidableEq

namespace ForwardResult

def done : ForwardResult := ⟨[], none⟩

def failed (fault : Fault) : ForwardResult := ⟨[], some fault⟩

/-- `send`, and what follows it. -/
def send (out : ForwardOutput) (next : ForwardResult) : ForwardResult :=
  { next with sent := out :: next.sent }

end ForwardResult

namespace ForwardNode

open ForwardResult

def discards (node : ForwardNode) (datagram : IPv6Datagram) : Bool :=
  ! node.isRouter || 255 ≤ datagram.hopLimit.toInt ||
    datagram.srcAddress.scope = .link || datagram.destAddress.scope = .link ||
    datagram.srcAddress.scope = .node || datagram.destAddress.scope = .node ||
    datagram.srcAddress.isMulticast ||
    ! node.routeSitePackets &&
      (datagram.destAddress.scope = .site || datagram.srcAddress.scope = .site)

/-- `processReceived`: the datagram to go on with and what is sent on the way. -/
def processReceived (node : ForwardNode) (datagram : IPv6Datagram) :
    Option IPv6Datagram × List ForwardOutput :=
  if node.discards datagram then (none, [])
  else
    let datagram := { datagram with hopLimit := datagram.hopLimit - 1 }
    if datagram.hopLimit = 0 then (none, [.timeExceeded datagram.dup])
    else (some datagram, [])

/-- Whether optimistic duplicate address detection holds the datagram back. -/
def odadHolds (node : ForwardNode) (datagram : IPv6Datagram) : Bool :=
  node.odad && node.interfaces.any fun data =>
    datagram.srcAddress ≠ .unspecified && data.tentativeAddrAssigned datagram.srcAddress ||
      node.careOfAddr.any fun addr => data.tentativeAddrAssigned addr

/-- `NDStateRouter::sendRedirect`, which sets `redirected` if it sends. -/
def sendRedirect (node : ForwardNode) (cds : IPv6CDS) (dgram : IPv6Datagram) (nextHop : Ipv6Addr) :
    Exec (Option ForwardOutput) :=
  match cds.lock (cds.neighbour dgram.srcAddress) with
  | none => .ok none
  | some ne =>
      if (ne.interfaceNo : Int) = dgram.inputPort ∧ dgram.destAddress.isMulticast = false ∧
          (nextHop.and .linkLocalPrefix = .linkLocalPrefix ∨ dgram.destAddress = nextHop) then do
        let redirNE := (cds.lock (cds.neighbour nextHop)).filter (·.llAddress ≠ "")
        let data ← Exec.deref .outOfBounds node.interfaces[dgram.inputPort.toNat]?
        let source ← Exec.deref .outOfBounds data.inetAddrs[0]?
        (match redirNE with
        | some redir =>
            if redir.isRouter then Exec.assert (nextHop.and .linkLocalPrefix = .linkLocalPrefix)
            else Exec.assert (nextHop = dgram.destAddress)
        | none => .ok ())
        if ne.llAddress = "" then return none
        else
          let datagram := { IPv6Datagram.create source.addr dgram.srcAddress with hopLimit := 255 }
          return some (.redirect datagram dgram.destAddress ((redirNE.map (·.llAddress)).getD ""))
      else .ok none

/-- The last part of `endService`: a unicast datagram whose next hop is reachable. After
`sendRedirect` took the datagram, `send` is left with a null pointer. -/
def sendReachable (node : ForwardNode) (cds : IPv6CDS) (datagram : IPv6Datagram)
    (info : AddrResInfo) : ForwardResult :=
  if ¬ (datagram.srcAddress ≠ .unspecified ∧ datagram.srcAddress.isMulticast = false) then
    failed .assertFailed
  else
    let datagram := { datagram with outputPort := info.ifIndex }
    if node.isRouter ∧ datagram.inputPort ≠ -1 ∧ (info.ifIndex : Int) = datagram.inputPort ∧
        datagram.destAddress = info.nextHop then
      match node.sendRedirect cds datagram info.nextHop with
      | .error fault => failed fault
      | .ok (some redirected) => send redirected done
      | .ok none => failed .fatalError
    else send (.fragmentationOut datagram info) done

/-- A unicast datagram, once its next hop is determined. -/
def sendUnicast (node : ForwardNode) (datagram : IPv6Datagram) (info : AddrResInfo)
    (cds : IPv6CDS) : ForwardResult :=
  if info.status = -1 ∨ info.status = -2 then
    if node.odadHolds datagram then done else send (.pendingQueueOut datagram info) done
  else if node.numInterfaceGates < info.ifIndex then
    send (.tunnelEntry { datagram with outputPort := info.ifIndex }) done
  else node.sendReachable cds datagram info

/-- From the test for a multicast destination on. -/
def sendOnwards (node : ForwardNode) (datagram : IPv6Datagram) (controlInfo : Option AddrResInfo) :
    ForwardResult :=
  if datagram.destAddress.isMulticast then send (.multicastOut datagram) done
  else
    match controlInfo with
    | some info => node.sendUnicast datagram info node.cds
    | none =>
        let (info, cds) := node.conceptualSending datagram .create
        node.sendUnicast datagram info cds

/-- A received datagram first goes through `processReceived`. -/
def forward (node : ForwardNode) (datagram : IPv6Datagram) (controlInfo : Option AddrResInfo) :
    ForwardResult :=
  if datagram.inputPort ≠ -1 then
    match node.processReceived datagram with
    | (none, sent) => ⟨sent, none⟩
    | (some datagram, _) => node.sendOnwards datagram controlInfo
  else node.sendOnwards datagram controlInfo

def tunnelByDestEntry (node : ForwardNode) (datagram : IPv6Datagram) : Option Nat :=
  if datagram.inputPort ≠ -1 then
    ((node.cds.findDestEntry datagram.destAddress).bind (node.cds.lock ·.neighbour)).bind fun ne =>
      if ne.state ≠ .incomplete ∧ node.numInterfaceGates < ne.interfaceNo then some ne.interfaceNo
      else none
  else none

/-- After local delivery. -/
def endServiceRemote (node : ForwardNode) (datagram : IPv6Datagram)
    (controlInfo : Option AddrResInfo) : ForwardResult :=
  match node.tunnelByDestEntry datagram with
  | some ifIndex =>
      send (.tunnelEntry { datagram.dup with outputPort := ifIndex })
        (if datagram.destAddress.isMulticast then node.forward datagram controlInfo else done)
  | none => node.forward datagram controlInfo

def localSource (node : ForwardNode) (datagram : IPv6Datagram) : Option Ipv6Addr :=
  if datagram.srcAddress = .unspecified ∧ datagram.inputPort = -1 then
    (node.interfaces[0]?.bind (·.inetAddrs[0]?)).map (·.addr)
  else some datagram.srcAddress

def endService (node : ForwardNode) (datagram : IPv6Datagram) (controlInfo : Option AddrResInfo) :
    ForwardResult :=
  if ¬ datagram.inputPort < node.numInterfaceGates then failed .assertFailed
  else if node.localDeliver datagram.destAddress then
    match node.localSource datagram with
    | none => failed .outOfBounds
    | some srcAddress =>
        send (.localOut { datagram.dup with srcAddress })
          (if datagram.destAddress.isMulticast then node.endServiceRemote datagram controlInfo
          else done)
  else node.endServiceRemote datagram controlInfo

end ForwardNode

end IPv6Suite
