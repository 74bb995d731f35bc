import IPv6Suite.AddressResolution
import IPv6Suite.Lib.KeyList

namespace IPv6Suite

open Lib

/-- The members of `RouterVariables` that are read when advertisements are scheduled -/
structure RouterVariables where
  advSendAds : Bool
  maxRtrAdvInt : SimTime
  minRtrAdvInt : SimTime
  fastRA : Bool
  maxFastRAS : BitVec 32
  fastRACounter : BitVec 32
deriving DecidableEq

/-- An interface with its addresses, and whether it has been initialised -/
structure AdvInterface where
  inetAddrs : List Ipv6Addr
  initStarted : Bool
  rtrVar : RouterVariables
deriving DecidableEq

/-- A timer message that is scheduled: the time it was scheduled at, and the time it arrives -/
structure CCallbackMessage where
  sendingTime : SimTime
  arrivalTime : SimTime
deriving DecidableEq

structure RtrTimer where
  ifIndex : Nat
  noInitAds : Nat
  maxInitAds : Nat
  maxInitRtrInterval : SimTime
  msg : Option CCallbackMessage
deriving DecidableEq

/-- A router solicitation and what is read of its datagram; `length` is in bits, and `srcLLAddr` is the
address of the option. -/
structure RtrSol where
  srcAddress : Ipv6Addr
  inputPort : Nat
  hopLimit : BitVec 16
  length : Nat
  srcLLAddr : Option String
deriving DecidableEq

namespace RtrSol

def hasOptions (rs : RtrSol) : Bool := rs.srcLLAddr.isSome

def hasSrcLLAddr (rs : RtrSol) : Bool := rs.srcLLAddr.getD "" ≠ ""

end RtrSol

/-- A router advertisement, to all nodes or to the node that has sent a solicitation -/
inductive RtrAdOutput where
  | outputOut (ifIndex : Nat) (srcAddress : Ipv6Addr)
  | sendDirect (ifIndex : Nat) (srcAddress destAddress : Ipv6Addr) (destLLAddr : String)
deriving DecidableEq

/-- `advTmrs` has the timer of each interface that advertises. -/
structure NDStateRouter where
  now : SimTime
  mobilitySupport : Bool
  interfaces : List AdvInterface
  advTmrs : List RtrTimer
deriving DecidableEq

def maxInitialRtrAdvertInterval : SimTime := 16

def maxInitialRtrAdvertisements : Nat := 3

def maxRaDelayTime : SimTime := 1 / 2

/-- The kernel refuses a time that has passed. -/
def scheduleMsg (now time : SimTime) : Exec CCallbackMessage :=
  if time < now then .error .fatalError else .ok ⟨now, time⟩

namespace RouterVariables

/-- `fastRACounter` is reset when an advertisement is sent to all nodes. -/
def resetFastRA (rtrVar : RouterVariables) : RouterVariables :=
  if rtrVar.fastRA ∧ rtrVar.fastRACounter ≠ 0 then { rtrVar with fastRACounter := 0 } else rtrVar

end RouterVariables

namespace RtrTimer

/-- The delay is limited for the first advertisements. -/
def nextDelay (tmr : RtrTimer) (delay : SimTime) : SimTime :=
  if tmr.noInitAds < tmr.maxInitAds ∧ tmr.maxInitRtrInterval < delay then tmr.maxInitRtrInterval else delay

def countAd (tmr : RtrTimer) : RtrTimer :=
  if tmr.noInitAds ≤ tmr.maxInitAds then { tmr with noInitAds := tmr.noInitAds + 1 } else tmr

end RtrTimer

namespace NDStateRouter

def minDelayBetweenRas (s : NDStateRouter) : SimTime := if s.mobilitySupport then 1 / 20 else 3

def modifyInterface (s : NDStateRouter) (ifIndex : Nat) (f : AdvInterface → AdvInterface) : NDStateRouter :=
  { s with interfaces := s.interfaces.modify ifIndex f }

def advTmr (s : NDStateRouter) (ifIndex : Nat) : Option RtrTimer := KeyList.find RtrTimer.ifIndex ifIndex s.advTmrs

def modifyTmr (s : NDStateRouter) (ifIndex : Nat) (f : RtrTimer → RtrTimer) : NDStateRouter :=
  { s with advTmrs := KeyList.modify RtrTimer.ifIndex ifIndex f s.advTmrs }

/-- The source is the first address of the interface. -/
def createDatagram (s : NDStateRouter) (ifIndex : Nat) : Exec Ipv6Addr := do
  let ie ← Exec.deref .outOfBounds s.interfaces[ifIndex]?
  Exec.deref .outOfBounds ie.inetAddrs.head?

/-- `delay` is what `uniform` gives. The timer is new if it has no message yet. -/
def sendUnsolRtrAd (s : NDStateRouter) (tmr : RtrTimer) (delay : SimTime) :
    Exec (RtrAdOutput × RtrTimer × NDStateRouter) := do
  let srcAddress ← s.createDatagram tmr.ifIndex
  let ie ← Exec.deref .outOfBounds s.interfaces[tmr.ifIndex]?
  Exec.assert (delay ≤ ie.rtrVar.maxRtrAdvInt)
  let s := s.modifyInterface tmr.ifIndex fun ie => { ie with rtrVar := ie.rtrVar.resetFastRA }
  let msg ← scheduleMsg s.now (s.now + tmr.nextDelay delay)
  let sent := { tmr.countAd with msg := some msg }
  match tmr.msg with
  | none => return (.outputOut tmr.ifIndex srcAddress, sent, { s with advTmrs := s.advTmrs ++ [sent] })
  | some _ => return (.outputOut tmr.ifIndex srcAddress, sent, s)

def initialiseInterface (s : NDStateRouter) (ifIndex : Nat) (delay : SimTime) :
    Exec (List RtrAdOutput × NDStateRouter) := do
  let ie ← Exec.deref .outOfBounds s.interfaces[ifIndex]?
  if ie.rtrVar.advSendAds then
    let tmr : RtrTimer := ⟨ifIndex, 0, maxInitialRtrAdvertisements, maxInitialRtrAdvertInterval, none⟩
    let (output, _, s) ← s.sendUnsolRtrAd tmr delay
    return ([output], s)
  else return ([], s)

/-- An interface is initialised with the first address that is assigned. -/
def dupAddrDetSuccess (s : NDStateRouter) (ifIndex : Nat) (addr : Ipv6Addr) (delay : SimTime) :
    Exec (List RtrAdOutput × NDStateRouter) := do
  let ie ← Exec.deref .outOfBounds s.interfaces[ifIndex]?
  let s := s.modifyInterface ifIndex fun ie => { ie with inetAddrs := ie.inetAddrs ++ [addr] }
  if ie.initStarted then return ([], s)
  else
    let (outputs, s) ← s.initialiseInterface ifIndex delay
    return (outputs, s.modifyInterface ifIndex fun ie => { ie with initStarted := true })

/-- The timer of the interface expires. -/
def expire (s : NDStateRouter) (ifIndex : Nat) (delay : SimTime) : Exec (List RtrAdOutput × NDStateRouter) := do
  let tmr ← Exec.deref .outOfBounds (s.advTmr ifIndex)
  let (output, sent, s) ← s.sendUnsolRtrAd tmr delay
  return ([output], s.modifyTmr ifIndex fun _ => sent)

def valRtrSol (rs : RtrSol) : Bool :=
  rs.hopLimit = ndHopLimit ∧ 8 ≤ rs.length / 8 ∧
    (rs.srcAddress = .unspecified ∧ ¬ rs.hasOptions ∨ rs.hasOptions)

/-- The answer to a solicitation, rate limited with reference to the advertisement before -/
def limitRtrAd (s : NDStateRouter) (msg : CCallbackMessage) (delay : SimTime) : Exec CCallbackMessage :=
  if msg.arrivalTime ≤ s.now + delay then .ok msg
  else if s.now - s.minDelayBetweenRas ≤ msg.sendingTime then
    scheduleMsg s.now (s.now + (delay + s.minDelayBetweenRas - (s.now - msg.sendingTime)))
  else scheduleMsg s.now (s.now + delay)

/-- A fast router advertisement is sent to the node alone. -/
def fastRtrAd (s : NDStateRouter) (ifIndex : Nat) (rs : RtrSol) (delay : SimTime) :
    Exec (List RtrAdOutput × NDStateRouter) := do
  let msg ← scheduleMsg s.now (s.now + s.minDelayBetweenRas + delay)
  let s := s.modifyTmr ifIndex ({ · with msg := some msg })
  if rs.hasSrcLLAddr then
    let srcAddress ← s.createDatagram ifIndex
    return ([.sendDirect ifIndex srcAddress rs.srcAddress (rs.srcLLAddr.getD "")],
      s.modifyInterface ifIndex fun ie =>
        { ie with rtrVar := { ie.rtrVar with fastRACounter := ie.rtrVar.fastRACounter + 1 } })
  else return ([], s)

/-- The neighbour cache has `ngbr` for the source of the solicitation. -/
def updateNgbr (rs : RtrSol) (ngbr : Option NeighbourEntry) : Exec (Option NeighbourEntry) :=
  if rs.srcAddress = .unspecified then .ok ngbr
  else
    let srcLLAddr := rs.srcLLAddr.getD ""
    let updated := match ngbr with
      | some ngbr =>
          if rs.hasSrcLLAddr ∧ srcLLAddr ≠ ngbr.llAddress then { ngbr with llAddress := srcLLAddr, state := .stale }
          else ngbr
      | none =>
          { NeighbourEntry.create rs.srcAddress rs.inputPort with llAddress := srcLLAddr, state := .stale }
    do
      Exec.assert (updated.isRouter = false)
      return some updated

/-- `delay` is what `uniform` gives. -/
def sendRtrAd (s : NDStateRouter) (rs : RtrSol) (ngbr : Option NeighbourEntry) (delay : SimTime) :
    Exec (List RtrAdOutput × Option NeighbourEntry × NDStateRouter) :=
  match s.advTmr rs.inputPort with
  | some tmr => do
      let msg ← Exec.deref .nullDeref tmr.msg
      let ie ← Exec.deref .outOfBounds s.interfaces[tmr.ifIndex]?
      if ie.rtrVar.fastRA ∧ ie.rtrVar.fastRACounter ≤ ie.rtrVar.maxFastRAS ∧ rs.srcAddress ≠ .unspecified then
        let (outputs, s) ← s.fastRtrAd tmr.ifIndex rs delay
        let ngbr ← updateNgbr rs ngbr
        return (outputs, ngbr, s)
      else
        let msg ← s.limitRtrAd msg delay
        let ngbr ← updateNgbr rs ngbr
        return ([], ngbr, s.modifyTmr tmr.ifIndex ({ · with msg := some msg }))
  | none => do
      let ie ← Exec.deref .outOfBounds s.interfaces[rs.inputPort]?
      if ie.inetAddrs ≠ [] ∧ ie.rtrVar.advSendAds then .error .fatalError
      else return ([], ngbr, s)

def processRtrSol (s : NDStateRouter) (rs : RtrSol) (ngbr : Option NeighbourEntry) (delay : SimTime) :
    Exec (List RtrAdOutput × Option NeighbourEntry × NDStateRouter) :=
  if valRtrSol rs then s.sendRtrAd rs ngbr delay else .ok ([], ngbr, s)

/-- What happens at a router, with what `uniform` gives -/
inductive Event where
  | wait (now : SimTime)
  | dupAddrDetSuccess (ifIndex : Nat) (addr : Ipv6Addr) (delay : SimTime)
  | expire (ifIndex : Nat) (delay : SimTime)
  | processRtrSol (rs : RtrSol) (ngbr : Option NeighbourEntry) (delay : SimTime)

def step (s : NDStateRouter) : Event → Exec (List RtrAdOutput × NDStateRouter)
  | .wait now => .ok ([], { s with now })
  | .dupAddrDetSuccess ifIndex addr delay => s.dupAddrDetSuccess ifIndex addr delay
  | .expire ifIndex delay => s.expire ifIndex delay
  | .processRtrSol rs ngbr delay => do
      let (outputs, _, s) ← s.processRtrSol rs ngbr delay
      return (outputs, s)

/-- `uniform(minRtrAdvInt, maxRtrAdvInt)` can give the delay. -/
def Drawn (rtrVar : RouterVariables) (delay : SimTime) : Prop :=
  rtrVar.minRtrAdvInt ≤ delay ∧ delay ≤ rtrVar.maxRtrAdvInt
deriving Decidable

/-- The clock does not pass a timer, a timer expires when it is due, and the delays are from their
intervals. -/
def Admits (s : NDStateRouter) : Event → Prop
  | .wait now => s.now ≤ now ∧ ∀ tmr ∈ s.advTmrs, ∀ msg ∈ tmr.msg, now ≤ msg.arrivalTime
  | .dupAddrDetSuccess ifIndex _ delay => ∀ ie ∈ s.interfaces[ifIndex]?, Drawn ie.rtrVar delay
  | .expire ifIndex delay => (∀ tmr ∈ s.advTmr ifIndex, ∀ msg ∈ tmr.msg, msg.arrivalTime = s.now) ∧
      ∀ ie ∈ s.interfaces[ifIndex]?, Drawn ie.rtrVar delay
  | .processRtrSol _ _ delay => 0 ≤ delay ∧ delay ≤ maxRaDelayTime

instance (s : NDStateRouter) : (e : Event) → Decidable (s.Admits e)
  | .wait _ | .expire _ _ | .processRtrSol _ _ _ => inferInstanceAs (Decidable (_ ∧ _))
  | .dupAddrDetSuccess _ _ _ => inferInstanceAs (Decidable (∀ ie ∈ _, Drawn _ _))

/-- A router whose interfaces have no addresses yet -/
def create (mobilitySupport : Bool) (vars : List RouterVariables) : NDStateRouter :=
  ⟨0, mobilitySupport, vars.map fun rtrVar => ⟨[], false, rtrVar⟩, []⟩

end NDStateRouter

end IPv6Suite
