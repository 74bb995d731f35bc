import IPv6Suite.IPv6Forward
import Mathlib.Algebra.Group.Int.Defs
import Mathlib.Order.RelClasses
import Mathlib.Order.Nat

namespace IPv6Suite

open Lib

namespace IPv6CDS

/-- `(*cds)[dest].neighbour = p`, for an address with its prefix length. -/
def setNeighbour (cds : IPv6CDS) (dest : IPv6Address) (p : Ptr) : IPv6CDS :=
  { cds with
    destCache := cds.destCache.insert dest { (cds.destCache[dest]?).getD {} with neighbour := some p } }

/-- Erases the entries without a live neighbour too. The index is an `unsigned int`. -/
def removeDestEntryByTunnel (cds : IPv6CDS) (vifIndex : Nat) : IPv6CDS :=
  { cds with
    destCache := cds.destCache.filter fun _ de =>
      (cds.lock de.neighbour).any (·.interfaceNo ≠ vifIndex % 2 ^ 32) }

/-- A `shared_ptr` outside the lists is reset to a new object. -/
def hold (cds : IPv6CDS) (ne : NeighbourEntry) : IPv6CDS :=
  { cds with held := (cds.next, ne) :: cds.held, next := cds.next + 1 }

/-- The last `shared_ptr` to the object goes. -/
def release (cds : IPv6CDS) (p : Ptr) : IPv6CDS :=
  { cds with held := cds.held.filter (·.1 ≠ p) }

end IPv6CDS

/-- `ne` points to the neighbour entry that the tunnel owns, once it has one. -/
structure Tunnel where
  entry : Ipv6Addr
  exit : Ipv6Addr
  ifIndex : Nat
  forOnePkt : Bool
  ne : Option Ptr := none
deriving DecidableEq

/-- The datagram with the control information for its outer header. -/
structure EncapsulatedDatagram where
  datagram : IPv6Datagram
  srcAddr : Ipv6Addr
  destAddr : Ipv6Addr
  timeToLive : BitVec 16
  encapLimit : Int
deriving DecidableEq

/-- The module with the data structures of its node. `curHopLimits` are those of the
interfaces, in the order of their ports. -/
structure IPv6Encapsulation where
  cds : IPv6CDS
  isRouter : Bool
  curHopLimits : List (BitVec 16)
  tunnels : StdMap Nat Tunnel (· < ·)
  vIfIndexTop : Nat
  tunHopLimit : BitVec 16
  sent : List EncapsulatedDatagram

def defaultRouterHopLimit : BitVec 16 := 64

/-- `--` on a `size_t` -/
def sizePred (n : Nat) : Nat := (n + (2 ^ 64 - 1)) % 2 ^ 64

namespace IPv6Encapsulation

/-- The module as its first stage leaves it, with as many interfaces as hop limits. -/
def create (cds : IPv6CDS) (isRouter : Bool) (curHopLimits : List (BitVec 16)) :
    IPv6Encapsulation where
  cds
  isRouter
  curHopLimits
  tunnels := ∅
  vIfIndexTop := uintMax - curHopLimits.length - 1
  tunHopLimit := 0
  sent := []

/-- The key of the first tunnel in iteration order that `p` selects, or 0. -/
def findFirst (s : IPv6Encapsulation) (p : Tunnel → Bool) : Nat :=
  match s.tunnels.toList.find? (p ·.2) with
  | some (key, _) => key
  | none => 0

/-- One of the two addresses may be left unspecified. -/
def findTunnel (s : IPv6Encapsulation) (src dest : Ipv6Addr) : Exec Nat :=
  if src = .unspecified then .ok (s.findFirst (·.exit = dest))
  else do
    Exec.assert (src ≠ dest)
    if dest = .unspecified then return s.findFirst (·.entry = src)
    else return s.findFirst fun tun => tun.entry = src ∧ tun.exit = dest

/-- `tunnelDestination`, with or without a prefix length. -/
def tunnelDestination (s : IPv6Encapsulation) (dest : IPv6Address) (vIfIndex : Nat) :
    Bool × IPv6Encapsulation :=
  match s.tunnels[vIfIndex]? with
  | none => (false, s)
  | some tun =>
      match tun.ne with
      | some p => (true, { s with cds := s.cds.setNeighbour dest p })
      | none =>
          (true,
            { s with
              cds := (s.cds.hold ⟨tun.entry, "", vIfIndex, false, .reachable⟩).setNeighbour dest
                s.cds.next
              tunnels := s.tunnels.insert vIfIndex { tun with ne := some s.cds.next } })

/-- What `tunnels` loses at a key takes its neighbour entry along. -/
def dropTunnel (s : IPv6Encapsulation) (key : Nat) : IPv6Encapsulation :=
  { s with
    cds := match (s.tunnels[key]?).bind (·.ne) with
      | some p => s.cds.release p
      | none => s.cds
    tunnels := s.tunnels.erase key }

/-- The new index, or 0 for a tunnel between two addresses of the node itself. -/
def createTunnel (s : IPv6Encapsulation) (localDeliver : Ipv6Addr → Bool) (src dest : Ipv6Addr)
    (ifIndex : Nat) (destTrigger : Ipv6Addr) (forOnePkt : Bool) :
    Exec (Nat × IPv6Encapsulation) := do
  let found ← s.findTunnel src dest
  Exec.assert (found = 0)
  if localDeliver src ∧ localDeliver dest then return (0, s)
  else
    let t := s.dropTunnel s.vIfIndexTop
    let t := { t with
      tunnels := t.tunnels.insert s.vIfIndexTop { entry := src, exit := dest, ifIndex, forOnePkt } }
    let t := if destTrigger ≠ .unspecified then
        (t.tunnelDestination (IPv6Address.host destTrigger) s.vIfIndexTop).2
      else t
    return (s.vIfIndexTop, { t with vIfIndexTop := sizePred s.vIfIndexTop })

def destroyTunnelAt (s : IPv6Encapsulation) (vIfIndex : Nat) : Bool × IPv6Encapsulation :=
  match s.tunnels[vIfIndex]? with
  | none => (false, s)
  | some _ =>
      let s := s.dropTunnel vIfIndex
      (true, { s with cds := s.cds.removeDestEntryByTunnel vIfIndex })

def destroyTunnel (s : IPv6Encapsulation) (src dest : Ipv6Addr) :
    Exec (Bool × IPv6Encapsulation) := do
  let vIfIndex ← s.findTunnel src dest
  if vIfIndex = 0 then return (false, s)
  else
    let s := s.dropTunnel vIfIndex
    return (true, { s with cds := s.cds.removeDestEntryByTunnel vIfIndex })

/-- The hop limit of the inner header, set if need be for a packet of the node itself. -/
def innerHopLimit (s : IPv6Encapsulation) (dgram : IPv6Datagram) : Exec (BitVec 16) :=
  if dgram.inputPort = -1 then do
    let hopLimit ← (if dgram.hopLimit = 0 then
        if s.isRouter then .ok defaultRouterHopLimit
        else Exec.deref .nullDeref s.curHopLimits[0]?
      else .ok dgram.hopLimit)
    return hopLimit - 1
  else .ok dgram.hopLimit

def outerHopLimit (s : IPv6Encapsulation) (tun : Tunnel) : Exec (BitVec 16) :=
  if s.isRouter ∧ s.tunHopLimit = 0 then .ok defaultRouterHopLimit
  else if s.tunHopLimit ≠ 0 then .ok s.tunHopLimit
  else Exec.deref .nullDeref s.curHopLimits[tun.ifIndex]?

/-- `handleMessage` for a datagram that is to be encapsulated. -/
def encapsulate (s : IPv6Encapsulation) (dgram : IPv6Datagram) (encapLimit : Int) :
    Exec IPv6Encapsulation :=
  if encapLimit = 0 then .ok s
  else
    -- the port is read as an `unsigned int`
    match s.tunnels[(dgram.outputPort % 2 ^ 32).toNat]? with
    | none => .ok s
    | some tun =>
        if tun.entry = dgram.srcAddress ∧ tun.exit = dgram.destAddress then .ok s
        else do
          Exec.assert (dgram.srcAddress ≠ .unspecified ∧ dgram.destAddress ≠ .unspecified)
          Exec.assert (tun.entry ≠ .unspecified ∧ tun.exit ≠ .unspecified)
          let hopLimit ← s.innerHopLimit dgram
          let timeToLive ← s.outerHopLimit tun
          let out : EncapsulatedDatagram :=
            { datagram := { dgram with hopLimit }
              srcAddr := tun.entry
              destAddr := tun.exit
              timeToLive
              encapLimit := encapLimit - 1 }
          let s := { s with sent := s.sent ++ [out] }
          if tun.forOnePkt then do
            let (_, s) ← s.destroyTunnel tun.entry tun.exit
            return s
          else return s

end IPv6Encapsulation

end IPv6Suite
