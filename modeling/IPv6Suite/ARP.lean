import IPv6Suite.MACRelayUnitBase
import Mathlib.Data.List.Basic

namespace IPv6Suite

open Lib

/-- An IPv4 address -/
abbrev IPAddress := BitVec 32

namespace IPAddress

def isNull (addr : IPAddress) : Bool := addr = 0

def isMulticast (addr : IPAddress) : Bool := addr &&& 0xF0000000 = 0xE0000000

end IPAddress

/-- The opcodes of an ARP packet that are supported -/
def arpRequest : Int := 1

def arpReply : Int := 2

structure ARPPacket where
  opcode : Int
  srcMACAddress : MACAddress
  destMACAddress : MACAddress
  srcIPAddress : IPAddress
  destIPAddress : IPAddress
deriving DecidableEq

/-- A packet with the routing decision that it comes with. `destAddress` is that of an `IPDatagram`. The control info
is removed from the packet at once and is kept here only to say what the decision was. -/
structure OutboundPacket (α : Type) where
  nextHopAddr : IPAddress
  outputPort : Int
  destAddress : Option IPAddress
  payload : α
deriving DecidableEq

structure ARPInterface where
  isBroadcast : Bool
  llAddrStr : List Char
  inetAddress : IPAddress

/-- The interface and routing tables of the host, as they are at the time of an event -/
structure ARPSurroundings where
  interfaceByPortNo : Int → Option ARPInterface
  localDeliver : IPAddress → Bool
  outputPortNo : IPAddress → Int

/-- `timer` is when the timer of the entry is to fire. -/
structure ARPCacheEntry (α : Type) where
  outputPort : Int
  pending : Bool
  macAddress : MACAddress
  lastUpdate : SimTime
  numRetries : Int
  timer : Option SimTime
  pendingPackets : List (OutboundPacket α)

/-- A packet that is sent on an output port, to a MAC address if its interface is broadcast -/
structure SentPacket (α : Type) where
  msg : OutboundPacket α
  outputPort : Int
  dest : Option MACAddress
deriving DecidableEq

structure SentARPPacket where
  arp : ARPPacket
  outputPort : Int
  dest : MACAddress
deriving DecidableEq

structure ARPOutput (α : Type) where
  packets : List (SentPacket α)
  arps : List SentARPPacket
  deleted : List (OutboundPacket α)

/-- `timers` has the timers that are scheduled, each with the address of the entry that it points to and the time. -/
structure ARP (α : Type) where
  retryTimeout : SimTime
  retryCount : Int
  cacheTimeout : SimTime
  doProxyARP : Bool
  nicOutSize : Nat
  arpCache : StdMap IPAddress (ARPCacheEntry α) (· < ·)
  pendingQueue : List (OutboundPacket α)
  timers : List (IPAddress × SimTime)

namespace ARP

variable {α : Type}

def start (retryTimeout : SimTime) (retryCount : Int) (cacheTimeout : SimTime) (doProxyARP : Bool) (nicOutSize : Nat) :
    ARP α :=
  ⟨retryTimeout, retryCount, cacheTimeout, doProxyARP, nicOutSize, ∅, [], []⟩

/-- The kernel accepts only a gate that exists. -/
def checkGate (a : ARP α) (outputPort : Int) : Exec Unit :=
  if 0 ≤ outputPort ∧ outputPort < a.nicOutSize then .ok () else .error .fatalError

def sendPacketToNIC (a : ARP α) (msg : OutboundPacket α) (outputPort : Int) (macAddress : MACAddress) :
    Exec (SentPacket α) := do
  a.checkGate outputPort
  return ⟨msg, outputPort, some macAddress⟩

def broadcastAddress : MACAddress := BitVec.allOnes 48

def sendARPRequest (a : ARP α) (env : ARPSurroundings) (outputPort : Int) (ipAddress : IPAddress) :
    Exec SentARPPacket := do
  let ie ← Exec.deref .nullDeref (env.interfaceByPortNo outputPort)
  let myMACAddress ← MACAddress.setAddress ie.llAddrStr
  a.checkGate outputPort
  return ⟨⟨arpRequest, myMACAddress, 0, ie.inetAddress, ipAddress⟩, outputPort, broadcastAddress⟩

/-- When a timer fires that is started now. The kernel schedules nothing in the past. -/
def retryTime (a : ARP α) (now : SimTime) : Exec SimTime :=
  if a.retryTimeout < 0 then .error .fatalError else .ok (now + a.retryTimeout)

def initiateARPResolution (a : ARP α) (env : ARPSurroundings) (now : SimTime) (nextHopAddr : IPAddress)
    (entry : ARPCacheEntry α) : Exec (ARP α × ARPCacheEntry α × SentARPPacket) := do
  let request ← a.sendARPRequest env entry.outputPort nextHopAddr
  let time ← a.retryTime now
  return ({ a with timers := a.timers ++ [(nextHopAddr, time)] },
    { entry with pending := true, numRetries := 0, lastUpdate := 0, timer := some time }, request)

/-- The packet waits both in its entry and in the queue. -/
def queueUp (a : ARP α) (nextHopAddr : IPAddress) (entry : ARPCacheEntry α) (msg : OutboundPacket α) : ARP α :=
  { a with
    arpCache := a.arpCache.insert nextHopAddr { entry with pendingPackets := entry.pendingPackets ++ [msg] }
    pendingQueue := a.pendingQueue ++ [msg] }

/-- A resolution starts, and the packet waits for it. -/
def resolve (a : ARP α) (env : ARPSurroundings) (now : SimTime) (nextHopAddr : IPAddress) (entry : ARPCacheEntry α)
    (msg : OutboundPacket α) : Exec (ARP α × ARPOutput α) := do
  let (a, entry, request) ← a.initiateARPResolution env now nextHopAddr entry
  return (a.queueUp nextHopAddr entry msg, ⟨[], [request], []⟩)

def processOutboundPacket (a : ARP α) (env : ARPSurroundings) (now : SimTime) (msg : OutboundPacket α) :
    Exec (ARP α × ARPOutput α) := do
  let ie ← Exec.deref .nullDeref (env.interfaceByPortNo msg.outputPort)
  if ¬ ie.isBroadcast then do
    a.checkGate msg.outputPort
    return (a, ⟨[⟨msg, msg.outputPort, none⟩], [], []⟩)
  else do
    let nextHopAddr ← (if ¬ msg.nextHopAddr.isNull then .ok msg.nextHopAddr
      else Exec.deref .fatalError msg.destAddress)
    if nextHopAddr.isMulticast then do
      let sent ← a.sendPacketToNIC msg msg.outputPort broadcastAddress
      return (a, ⟨[sent], [], []⟩)
    else match a.arpCache[nextHopAddr]? with
      | none => a.resolve env now nextHopAddr ⟨msg.outputPort, false, 0, 0, 0, none, []⟩ msg
      | some entry =>
          if entry.pending then .ok (a.queueUp nextHopAddr entry msg, ⟨[], [], []⟩)
          else if entry.lastUpdate + a.cacheTimeout < now then
            a.resolve env now nextHopAddr { entry with outputPort := msg.outputPort } msg
          else do
            let sent ← a.sendPacketToNIC msg msg.outputPort entry.macAddress
            return (a, ⟨[sent], [], []⟩)

/-- The timer of the entry at `nextHopAddr` has fired. -/
def requestTimedOut [DecidableEq α] (a : ARP α) (env : ARPSurroundings) (now : SimTime) (nextHopAddr : IPAddress) :
    Exec (ARP α × ARPOutput α) := do
  let a := { a with timers := a.timers.erase (nextHopAddr, now) }
  let entry ← Exec.deref .useAfterFree a.arpCache[nextHopAddr]?
  let entry := { entry with numRetries := entry.numRetries + 1 }
  if entry.numRetries < a.retryCount then do
    let request ← a.sendARPRequest env entry.outputPort nextHopAddr
    let time ← a.retryTime now
    return ({ a with
      arpCache := a.arpCache.insert nextHopAddr { entry with timer := some time }
      timers := a.timers ++ [(nextHopAddr, time)] }, ⟨[], [request], []⟩)
  else
    return ({ a with
      arpCache := a.arpCache.erase nextHopAddr
      pendingQueue := entry.pendingPackets.foldl List.erase a.pendingQueue }, ⟨[], [], entry.pendingPackets⟩)

def addressRecognized (a : ARP α) (env : ARPSurroundings) (destAddr : IPAddress) (outputPort : Int) : Bool :=
  env.localDeliver destAddr ||
    (a.doProxyARP && decide (outputPort ≠ -1 ∧ env.outputPortNo destAddr ≠ outputPort))

def cancelTimer (a : ARP α) (address : IPAddress) (entry : ARPCacheEntry α) : Exec (ARP α) :=
  if entry.pending then do
    let time ← Exec.deref .nullDeref entry.timer
    return { a with timers := a.timers.erase (address, time) }
  else .ok a

def updateARPCache [DecidableEq α] (a : ARP α) (now : SimTime) (address : IPAddress) (entry : ARPCacheEntry α)
    (macAddress : MACAddress) : Exec (ARP α × List (SentPacket α)) := do
  let a ← a.cancelTimer address entry
  let sent ← entry.pendingPackets.mapM fun msg => a.sendPacketToNIC msg entry.outputPort macAddress
  let numRetries := if entry.pending then 0 else entry.numRetries
  return ({ a with
    arpCache := a.arpCache.insert address
      ⟨entry.outputPort, false, macAddress, now, numRetries, if entry.pending then none else entry.timer, []⟩
    pendingQueue := entry.pendingPackets.foldl List.erase a.pendingQueue }, sent)

/-- The entry of the sender is updated, or added if the packet is for this host. -/
def mergeSender [DecidableEq α] (a : ARP α) (now : SimTime) (recognized : Bool) (arp : ARPPacket) (inputPort : Int) :
    Exec (ARP α × List (SentPacket α)) :=
  match a.arpCache[arp.srcIPAddress]? with
  | some entry => a.updateARPCache now arp.srcIPAddress entry arp.srcMACAddress
  | none =>
      if recognized then a.updateARPCache now arp.srcIPAddress ⟨inputPort, false, 0, 0, 0, none, []⟩ arp.srcMACAddress
      else .ok (a, [])

def answer (a : ARP α) (env : ARPSurroundings) (arp : ARPPacket) (inputPort : Int) : Exec (List SentARPPacket) :=
  if arp.opcode = arpRequest then do
    let ie ← Exec.deref .nullDeref (env.interfaceByPortNo inputPort)
    let myMACAddress ← MACAddress.setAddress ie.llAddrStr
    a.checkGate inputPort
    return [⟨⟨arpReply, myMACAddress, arp.srcMACAddress, arp.destIPAddress, arp.srcIPAddress⟩, inputPort,
      arp.srcMACAddress⟩]
  else if arp.opcode = arpReply then .ok []
  else .error .fatalError

def processARPPacket [DecidableEq α] (a : ARP α) (env : ARPSurroundings) (now : SimTime) (arp : ARPPacket)
    (inputPort : Int) : Exec (ARP α × ARPOutput α) := do
  let recognized := a.addressRecognized env arp.destIPAddress inputPort
  let (a, packets) ← a.mergeSender now recognized arp inputPort
  let arps ← (if recognized then a.answer env arp inputPort else .ok [])
  return (a, ⟨packets, arps, []⟩)

end ARP

end IPv6Suite
