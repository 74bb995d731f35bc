import IPv6Suite.AddressResolution

namespace IPv6Suite

open Lib

structure InterfaceToken where
  normal : BitVec 32
  low : BitVec 32
  length : Nat
deriving DecidableEq

/-- An interface with its entry in `ifStats` and in `rtrSolicited`. -/
structure DadInterface extends InterfaceEntry where
  dupAddrDetectTrans : Int
  interfaceToken : InterfaceToken
  manualLinkLocal : Bool
  initStarted : Bool
  rtrSolicited : Bool
deriving DecidableEq

/-- The data of a solicitation that is repeated. `msg` says whether its message is set up;
`srcLLAddr` is the option of the router solicitation in `dgram`. -/
structure NDTimer where
  msg : Bool
  dgram : Option IPv6Datagram
  srcLLAddr : String
  counter : Int
  maxSends : Int
  timeout : SimTime
  ifIndex : Nat
  tentativeAddr : InterfaceAddress
deriving DecidableEq

inductive NDTimerKind where
  | initialiseNode
  | dupAddrDet (tmr : NDTimer)
  | rtrSolRetry (tmr : NDTimer)
deriving DecidableEq

/-- An element of `timerMsgs`; `arrival` is none while it is not scheduled. -/
structure NDTimerMsg where
  ptr : Ptr
  kind : NDTimerKind
  arrival : Option SimTime
deriving DecidableEq

/-- A neighbour solicitation with what its validation reads. -/
structure ReceivedNgbrSol extends NgbrSol where
  destAddress : Ipv6Addr
  hopLimit : BitVec 16
  code : Nat
deriving DecidableEq

structure ReceivedNgbrAd extends NgbrAd where
  targetAddr : Ipv6Addr
deriving DecidableEq

/-- What the host sends. `addrAssigned` records whose detection assigned an address. -/
inductive DadOutput where
  | ngbrSol (datagram : IPv6Datagram) (targetAddr : Ipv6Addr) (ifIndex : Nat) (time : SimTime)
  | rtrSol (datagram : IPv6Datagram) (srcLLAddr : String) (ifIndex : Nat) (time : SimTime)
  | addrAssigned (tmr : Ptr) (ifIndex : Nat) (addr : Ipv6Addr)
  | ngbrSolToAddrResln (msg : ReceivedNgbrSol)
  | ngbrAdToAddrResln (msg : ReceivedNgbrAd)
deriving DecidableEq

/-- `NDStateHost` as far as it detects duplicate addresses. `uniform` is the delay drawn
for a timer, `full` tells whether a vector of addresses has to grow for another one, and
`awayFromHome` whether the node is a mobile node away from home. -/
structure DupAddrDet where
  interfaces : List DadInterface
  isRouter : Bool
  odad : Bool
  awayFromHome : Bool
  uniform : Ptr → SimTime
  full : Nat → Bool
  multicastGroup : List Ipv6Addr
  timerMsgs : List NDTimerMsg
  stateEntered : Bool
  next : Ptr
  sent : List DadOutput

def maxRtrSolicitations : Int := 3

def rtrSolicitationInterval : SimTime := 4

def maxRtrSolicitationDelay : SimTime := 1

def Ipv6Addr.allRoutersLink : Ipv6Addr := ⟨0xFF020000, 0, 0, 2⟩

/-- `SOLICITED_NODE_PREFIX`, FF02::1:FF00:0/108 in the source. -/
def IPv6Address.solicitedNodePrefix : IPv6Address := ⟨⟨0xFF020000, 0, 1, 0xFF000000⟩, 108⟩

def IPv6Address.linkLocalPrefix : IPv6Address := ⟨.linkLocalPrefix, 64⟩

namespace InterfaceToken

/-- `ipv6_addr_fromInterfaceToken` -/
def toAddr (token : InterfaceToken) (addr : Ipv6Addr) : Exec Ipv6Addr := do
  Exec.assert (token.length = 64)
  return { addr with normal := token.normal, low := token.low }

end InterfaceToken

namespace InterfaceAddress

/-- `IPv6Address(addr)`, with infinite lifetimes. -/
def host (addr : Ipv6Addr) : InterfaceAddress where
  toIPv6Address := IPv6Address.ofAddr addr 0
  storedLifetime := validLifetimeInfinity
  preferredLifetime := validLifetimeInfinity
  updated := false

end InterfaceAddress

namespace NDTimer

def create (ifIndex : Nat) (tentativeAddr : InterfaceAddress) : NDTimer where
  msg := false
  dgram := none
  srcLLAddr := ""
  counter := 0
  maxSends := 0
  timeout := 0
  ifIndex
  tentativeAddr := tentativeAddr.copy

end NDTimer

namespace NDTimerMsg

/-- The message of the detection for an address of an interface. -/
def detects (ifIndex : Nat) (addr : Ipv6Addr) (m : NDTimerMsg) : Bool :=
  match m.kind with
  | .dupAddrDet tmr => tmr.ifIndex = ifIndex ∧ tmr.tentativeAddr.addr = addr
  | _ => false

def solicitsRouter (ifIndex : Nat) (m : NDTimerMsg) : Bool :=
  match m.kind with
  | .rtrSolRetry tmr => tmr.ifIndex = ifIndex
  | _ => false

end NDTimerMsg

namespace DupAddrDet

def interfaceByPortNo (s : DupAddrDet) (ifIndex : Nat) : Exec DadInterface :=
  Exec.deref .nullDeref s.interfaces[ifIndex]?

def withInterface (s : DupAddrDet) (ifIndex : Nat) (ie : DadInterface) : DupAddrDet :=
  { s with interfaces := s.interfaces.set ifIndex ie }

/-- `tentativeAddrs` of an interface, none where there is no interface. -/
def tentativeAddrs (s : DupAddrDet) (ifIndex : Nat) : List InterfaceAddress :=
  (s.interfaces[ifIndex]?.map (·.ipv6.tentativeAddrs)).getD []

def tentativeAddrAssigned (s : DupAddrDet) (ifIndex : Nat) (addr : Ipv6Addr) : Prop :=
  ∃ a ∈ s.tentativeAddrs ifIndex, a.addr = addr

def scheduleAt (s : DupAddrDet) (p : Ptr) (time : SimTime) (kind : NDTimerKind) : DupAddrDet :=
  { s with
    timerMsgs := s.timerMsgs.map fun m => if m.ptr = p then ⟨p, kind, some time⟩ else m }

/-- `timerMsgs.remove(tmr->msg)` -/
def removeTimer (s : DupAddrDet) (p : Ptr) : DupAddrDet :=
  { s with timerMsgs := s.timerMsgs.filter (·.ptr ≠ p) }

/-! ### `RoutingTable6` -/

def joinMulticastGroup (s : DupAddrDet) (addr : Ipv6Addr) : Exec DupAddrDet := do
  Exec.assert (addr.isMulticast = true)
  return { s with multicastGroup := s.multicastGroup ++ [addr] }

def leaveMulticastGroup (s : DupAddrDet) (addr : Ipv6Addr) : Exec DupAddrDet := do
  Exec.assert (addr.isMulticast = true)
  return { s with multicastGroup := s.multicastGroup.erase addr }

def assignAddress (s : DupAddrDet) (addr : InterfaceAddress) (ifIndex : Nat) :
    Exec DupAddrDet := do
  Exec.assert (ifIndex < s.interfaces.length)
  let ie ← s.interfaceByPortNo ifIndex
  Exec.assert (ie.ipv6.addrAssigned addr.addr = false)
  let ipv6 ← (if ie.ipv6.tentativeAddrAssigned addr.addr then
    ie.ipv6.removeTentativeAddress addr.toIPv6Address else .ok ie.ipv6)
  Exec.assert (addr.storedLifetime ≠ 0)
  return s.withInterface ifIndex
    { ie with ipv6 := ipv6.pushBack addr (s.full ipv6.inetAddrs.length) }

/-! ### Router solicitations -/

/-- The solicitation is sent, or no router has answered. -/
def sendRtrSolAfter (s : DupAddrDet) (now : SimTime) (p : Ptr) (tmr : NDTimer)
    (delay : SimTime) : Exec DupAddrDet :=
  if tmr.counter < tmr.maxSends then do
    let dgram ← Exec.deref .nullDeref tmr.dgram
    let timeout := if tmr.counter < tmr.maxSends - 1 then rtrSolicitationInterval
      else maxRtrSolicitationDelay
    let sent := s.sent ++ [.rtrSol dgram tmr.srcLLAddr tmr.ifIndex (now + delay)]
    return { s with sent }.scheduleAt p (now + (timeout + delay))
      (.rtrSolRetry { tmr with counter := tmr.counter + 1, timeout })
  else .ok (s.removeTimer p)

def sendRtrSol (s : DupAddrDet) (now : SimTime) (ifIndex : Nat) : Exec DupAddrDet := do
  let ie ← s.interfaceByPortNo ifIndex
  let src := (ie.ipv6.inetAddrs.head?.map (·.addr)).getD .unspecified
  let optioned := ie.ipv6.inetAddrs ≠ [] ∨ (s.odad ∧ ie.ipv6.tentativeAddrAssigned src = false)
  let tmr := { NDTimer.create ifIndex (.host .unspecified) with
    msg := true
    dgram := some { IPv6Datagram.create src .allRoutersLink with hopLimit := ndHopLimit }
    srcLLAddr := if optioned then ie.llAddrStr else ""
    maxSends := maxRtrSolicitations }
  let timerMsgs := s.timerMsgs ++ [⟨s.next, .rtrSolRetry tmr, none⟩]
  { s with timerMsgs, next := s.next + 1 }.sendRtrSolAfter now s.next tmr (s.uniform s.next)

/-- `processRtrAd` ends the router solicitations of an interface with an address. -/
def rtrAdReceived (s : DupAddrDet) (ifIndex : Nat) : Exec DupAddrDet := do
  Exec.assert (ifIndex < s.interfaces.length)
  let ie ← s.interfaceByPortNo ifIndex
  if ie.rtrSolicited = false ∧ ie.ipv6.inetAddrs ≠ [] then
    return { s.withInterface ifIndex { ie with rtrSolicited := true } with
      timerMsgs := s.timerMsgs.eraseP (·.solicitsRouter ifIndex) }
  else return s

/-! ### Duplicate address detection -/

section Detection

variable (detect : Ptr → NDTimer → DupAddrDet → Exec DupAddrDet)

def newDetection (s : DupAddrDet) (ifIndex : Nat) (tentativeAddr : InterfaceAddress) :
    Exec DupAddrDet :=
  detect s.next (.create ifIndex tentativeAddr) { s with next := s.next + 1 }

/-- The loop of `dupAddrDetOtherAddr` from index `j` on. The vector does not grow, so that
`rounds` of its length reach the end. -/
def dupAddrDetFrom (ifIndex : Nat) : (rounds j : Nat) → DupAddrDet → Exec DupAddrDet
  | 0, _, s => .ok s
  | rounds + 1, j, s =>
      match (s.tentativeAddrs ifIndex)[j]? with
      | none => .ok s
      | some tentativeAddr => do
          let s ← s.newDetection detect ifIndex tentativeAddr
          dupAddrDetFrom ifIndex rounds (j + 1) s

def dupAddrDetOtherAddr (s : DupAddrDet) (ifIndex : Nat) : Exec DupAddrDet := do
  let ie ← s.interfaceByPortNo ifIndex
  dupAddrDetFrom detect ifIndex ie.ipv6.tentativeAddrs.length 0 s

def initialiseInterface (s : DupAddrDet) (now : SimTime) (ifIndex : Nat) : Exec DupAddrDet := do
  let s ← s.dupAddrDetOtherAddr detect ifIndex
  let ie ← s.interfaceByPortNo ifIndex
  if s.isRouter = false ∧ ie.rtrSolicited = false then s.sendRtrSol now ifIndex else return s

/-- The rest of the interface is initialised once, after its first address. -/
def initialiseOnce (s : DupAddrDet) (now : SimTime) (ifIndex : Nat) : Exec DupAddrDet := do
  let ie ← s.interfaceByPortNo ifIndex
  if ie.initStarted = false then do
    let s ← { s with stateEntered := true }.initialiseInterface detect now ifIndex
    let ie ← s.interfaceByPortNo ifIndex
    return s.withInterface ifIndex { ie with initStarted := true }
  else return s

def dupAddrDetSuccess (s : DupAddrDet) (now : SimTime) (p : Ptr) (tmr : NDTimer) :
    Exec DupAddrDet := do
  let s ← s.assignAddress tmr.tentativeAddr tmr.ifIndex
  let s ← s.initialiseOnce detect now tmr.ifIndex
  return { s with sent := s.sent ++ [.addrAssigned p tmr.ifIndex tmr.tentativeAddr.addr] }

/-- The second half of `dupAddrDetection`: one more solicitation, or the address is assigned. -/
def dupAddrDetContinue (s : DupAddrDet) (now : SimTime) (p : Ptr) (tmr : NDTimer)
    (delay : SimTime) : Exec DupAddrDet :=
  if tmr.counter < tmr.maxSends then do
    let dgram ← Exec.deref .nullDeref tmr.dgram
    let sent := s.sent ++ [.ngbrSol dgram tmr.tentativeAddr.addr tmr.ifIndex (now + delay)]
    return { s with sent }.scheduleAt p (now + delay + tmr.timeout)
      (.dupAddrDet { tmr with counter := tmr.counter + 1 })
  else do
    let s ← s.dupAddrDetSuccess detect now p tmr
    return s.removeTimer p

/-- The first half of `dupAddrDetection` for an interface that sends solicitations. -/
def dupAddrDetStart (s : DupAddrDet) (now : SimTime) (p : Ptr) (tmr : NDTimer)
    (ie : DadInterface) : Exec DupAddrDet := do
  let solimcastAddr := tmr.tentativeAddr.addr.solNodeAddr
  Exec.assert (s.odad = true → ie.ipv6.tentativeAddrAssigned .unspecified = false)
  let delay := if s.odad ∨ s.awayFromHome ∨ ie.ipv6.inetAddrs ≠ [] then 0 else s.uniform p
  let tmr := { tmr with
    msg := true
    dgram := some { IPv6Datagram.create .unspecified solimcastAddr with hopLimit := ndHopLimit }
    maxSends := ie.dupAddrDetectTrans
    timeout := ie.retransTimer / 1000 }
  let timerMsgs := s.timerMsgs ++ [⟨p, .dupAddrDet tmr, none⟩]
  { s with timerMsgs }.dupAddrDetContinue detect now p tmr delay

end Detection

/-- Without solicitations an address is assigned at once, and the first one of an interface
starts the detection of the others inside its own. Each assigns one of the tentative
addresses, so that their number bounds `depth`. -/
def dupAddrDetection (now : SimTime) :
    (depth : Nat) → Ptr → NDTimer → DupAddrDet → Exec DupAddrDet
  | 0, _, _, _ => .error .fatalError
  | depth + 1, p, tmr, s => do
      let ie ← s.interfaceByPortNo tmr.ifIndex
      if tmr.msg then s.dupAddrDetContinue (dupAddrDetection now depth) now p tmr 0
      else do
        let s ← s.joinMulticastGroup tmr.tentativeAddr.addr.solNodeAddr
        if ie.dupAddrDetectTrans < 1 then
          s.dupAddrDetSuccess (dupAddrDetection now depth) now p tmr
        else s.dupAddrDetStart (dupAddrDetection now depth) now p tmr ie

def depth (s : DupAddrDet) (ifIndex : Nat) : Nat := (s.tentativeAddrs ifIndex).length + 2

def linkLocalAddr (s : DupAddrDet) (ifIndex : Nat) : Exec (InterfaceAddress × DupAddrDet) := do
  let ie ← s.interfaceByPortNo ifIndex
  match ie.ipv6.tentativeAddrs.find? fun a => IPv6Address.linkLocalPrefix.isNetwork a.addr with
  | some linkLocal =>
      return (linkLocal.copy, s.withInterface ifIndex { ie with manualLinkLocal := true })
  | none => do
      let addr ← ie.interfaceToken.toAddr .linkLocalPrefix
      let tentativeAddrs := ie.ipv6.tentativeAddrs ++ [InterfaceAddress.host addr]
      return (.host addr, s.withInterface ifIndex { ie with ipv6 := { ie.ipv6 with tentativeAddrs } })

def detectLinkLocal (now : SimTime) (s : DupAddrDet) (ifIndex : Nat) : Exec DupAddrDet := do
  let (linkLocal, s) ← s.linkLocalAddr ifIndex
  s.newDetection (dupAddrDetection now (s.depth ifIndex)) ifIndex linkLocal

def nodeInitialise (s : DupAddrDet) (now : SimTime) : Exec DupAddrDet :=
  let timerMsgs := s.timerMsgs.eraseP (·.kind = .initialiseNode)
  (List.range s.interfaces.length).foldlM (detectLinkLocal now) { s with timerMsgs }

def detectDupAddress (s : DupAddrDet) (now : SimTime) (ifIndex : Nat)
    (tentativeAddr : InterfaceAddress) : Exec DupAddrDet := do
  let ie ← s.interfaceByPortNo ifIndex
  let tentativeAddrs := ie.ipv6.tentativeAddrs ++ [tentativeAddr.copy]
  let s := s.withInterface ifIndex { ie with ipv6 := { ie.ipv6 with tentativeAddrs } }
  s.newDetection (dupAddrDetection now (s.depth ifIndex)) ifIndex tentativeAddr

/-! ### Received messages -/

def removeTentativeAddress (s : DupAddrDet) (ifIndex : Nat) (ie : DadInterface)
    (addr : Ipv6Addr) : Exec (Bool × DupAddrDet) :=
  match s.timerMsgs.find? (·.detects ifIndex addr) with
  | some ⟨p, .dupAddrDet tmr, arrival⟩ => do
      Exec.assert (arrival.isSome = true)
      let ipv6 ← ie.ipv6.removeTentativeAddress tmr.tentativeAddr.toIPv6Address
      return (true, (s.withInterface ifIndex { ie with ipv6 }).removeTimer p)
  | _ => .ok (false, s)

/-- The result is false in every case. -/
def checkDupAddrDetected (s : DupAddrDet) (targetAddr : Ipv6Addr) (inputPort : Nat) :
    Exec (Bool × DupAddrDet) := do
  let ie ← s.interfaceByPortNo inputPort
  if ie.ipv6.tentativeAddrAssigned targetAddr then do
    let s ← s.leaveMulticastGroup targetAddr.solNodeAddr
    let (removed, s) ← s.removeTentativeAddress inputPort ie targetAddr
    Exec.assert (removed = true)
    return (false, s)
  else return (false, s)

def valNgbrSol (sol : ReceivedNgbrSol) : Exec Bool := do
  Exec.assert (sol.hopLimit = ndHopLimit)
  Exec.assert (sol.code = 0)
  if sol.targetAddr.isMulticast then return false
  else if sol.srcAddress = .unspecified then
    return IPv6Address.solicitedNodePrefix.isNetwork sol.destAddress && sol.srcLLAddr = ""
  else return true

/-- The index of an input port; there is no interface with a negative one. -/
def portNo (port : Int) : Exec Nat := if port < 0 then .error .nullDeref else .ok port.toNat

def toAddrResln (s : DupAddrDet) (message : DadOutput) : DupAddrDet :=
  { s with sent := s.sent ++ [message] }

def processNgbrSol (s : DupAddrDet) (msg : ReceivedNgbrSol) : Exec DupAddrDet := do
  let valid ← valNgbrSol msg
  if valid = false then return s
  else if msg.srcAddress = .unspecified then do
    let inputPort ← portNo msg.inputPort
    let (stop, s) ← s.checkDupAddrDetected msg.targetAddr inputPort
    if stop then return s else return s.toAddrResln (.ngbrSolToAddrResln msg)
  else do
    let inputPort ← portNo msg.inputPort
    let ie ← s.interfaceByPortNo inputPort
    if ie.ipv6.tentativeAddrAssigned msg.targetAddr ∧ s.odad = false then return s
    else return s.toAddrResln (.ngbrSolToAddrResln msg)

def processNgbrAd (s : DupAddrDet) (ngbrAdv : ReceivedNgbrAd) : Exec DupAddrDet :=
  if ngbrAdv.solicited = false then do
    let (stop, s) ← s.checkDupAddrDetected ngbrAdv.targetAddr ngbrAdv.inputPort
    if stop then return s else return s.toAddrResln (.ngbrAdToAddrResln ngbrAdv)
  else .ok (s.toAddrResln (.ngbrAdToAddrResln ngbrAdv))

def timerExpired (s : DupAddrDet) (now : SimTime) (m : NDTimerMsg) : Exec DupAddrDet :=
  match m.kind with
  | .initialiseNode => s.nodeInitialise now
  | .dupAddrDet tmr => dupAddrDetection now (s.depth tmr.ifIndex) m.ptr tmr s
  | .rtrSolRetry tmr => s.sendRtrSolAfter now m.ptr tmr 0

end DupAddrDet

/-- What `NDStateHost` handles, and the addresses that other modules let it detect. -/
inductive DadEvent where
  | timeout (p : Ptr)
  | detectDupAddress (ifIndex : Nat) (tentativeAddr : InterfaceAddress)
  | ngbrSol (msg : ReceivedNgbrSol)
  | ngbrAd (ngbrAdv : ReceivedNgbrAd)
  | rtrAd (ifIndex : Nat)

namespace DupAddrDet

/-- `handleMessage` at a time. The timeouts come in any order, and only a scheduled message
can arrive. -/
def handleMessage (s : DupAddrDet) (msg : SimTime × DadEvent) : Exec DupAddrDet :=
  match msg.2 with
  | .timeout p => do
      let m ← Exec.deref .useAfterFree (s.timerMsgs.find? fun m => m.ptr = p ∧ m.arrival.isSome)
      s.timerExpired msg.1 m
  | .detectDupAddress ifIndex tentativeAddr => s.detectDupAddress msg.1 ifIndex tentativeAddr
  | .ngbrSol sol => s.processNgbrSol sol
  | .ngbrAd ngbrAdv => s.processNgbrAd ngbrAdv
  | .rtrAd ifIndex => s.rtrAdReceived ifIndex

end DupAddrDet

end IPv6Suite
