import IPv6Suite.IPv6Datagram

namespace IPv6Suite

open Lib

/-- What routing header processing sends: on `routingOut`, or as an ICMP error. -/
inductive RouteOutput where
  | routingOut (datagram : IPv6Datagram)
  | paramProblem (datagram : IPv6Datagram) (pointer : Int)
  | timeExceeded (datagram : IPv6Datagram)
deriving DecidableEq

namespace IPv6Datagram

/-- The routing header `i` of the extension header `j`. -/
def rhead (d : IPv6Datagram) (j i : Nat) : Option HdrExtRte :=
  d.extHdrs[j]?.bind (·.rheads[i]?)

def setRhead (d : IPv6Datagram) (j i : Nat) (rh : HdrExtRte) : IPv6Datagram :=
  { d with extHdrs := d.extHdrs.modify j fun proc => { proc with rheads := proc.rheads.set i rh } }

/-- `HdrExtRte::processHeader`: the next address of the vector and the destination change
places, and a copy of the datagram goes back to routing. -/
def processRte (d : IPv6Datagram) (j i : Nat) (cumulLengthInUnits : Nat) :
    Exec (Bool × IPv6Datagram × List RouteOutput) := do
  let rh ← Exec.deref .nullDeref (d.rhead j i)
  Exec.assert (d.destAddress.isMulticast = false)
  if rh.segmentsLeft = 0 then return (true, d, [])
  else if rh.hdrExtLen.toNat % 2 ≠ 0 then
    return (false, d,
      [.paramProblem d.dup ((cumulLengthInUnits : Int) - (rh.lengthInUnits : Int))])
  else if rh.nAddr < rh.segmentsLeft.toNat then
    return (false, d, [.paramProblem d.dup cumulLengthInUnits])
  else do
    let segmentsLeft := rh.segmentsLeft - 1
    let index := rh.nAddr - segmentsLeft.toNat
    let swapAddr ← Exec.deref .outOfBounds rh.addr[index - 1]?
    if swapAddr.isMulticast ∨ d.destAddress.isMulticast then
      return (false, d.setRhead j i { rh with segmentsLeft }, [])
    else
      let d : IPv6Datagram :=
        { d.setRhead j i { rh with segmentsLeft, addr := rh.addr.set (index - 1) d.destAddress } with
          destAddress := swapAddr }
      if d.hopLimit.toInt ≤ 1 then return (false, d, [.timeExceeded d.dup])
      else return (true, d, [.routingOut d.dup])

/-- The loop of `HdrExtRteProc::processHeader` from the routing header `i` on. A `MIPv6RteOpt` has
one segment left. -/
def processRheads (j : Nat) : (count i cumulLengthInUnits : Nat) → IPv6Datagram →
    Exec (Bool × IPv6Datagram × List RouteOutput)
  | 0, _, _, d => .ok (true, d, [])
  | count + 1, i, cumulLengthInUnits, d => do
      let rh ← Exec.deref .nullDeref (d.rhead j i)
      let cumulLengthInUnits := cumulLengthInUnits + rh.lengthInUnits
      if rh.segmentsLeft ≠ 0 then
        Exec.assert (rh.isMIPv6RteOpt = true → rh.segmentsLeft = 1)
        let (success, d, sent) ← d.processRte j i cumulLengthInUnits
        if success then
          let (success, d, later) ← processRheads j count (i + 1) cumulLengthInUnits d
          return (success, d, sent ++ later)
        else return (false, d, sent)
      else processRheads j count (i + 1) cumulLengthInUnits d

/-- `cumulLengthInUnits(pdu)`: the header itself counts twice. -/
def cumulLengthInUnits (d : IPv6Datagram) (j : Nat) : Nat :=
  ((d.extHdrs.take (j + 1)).map (·.lengthInUnits)).sum +
    ((d.extHdrs[j]?).map (·.lengthInUnits)).getD 0

/-- The case `IPv6_PROT_ROUT` of `processDatagram`, for the first routing header. It is
processed unless it has no segments left. -/
def processRouting (d : IPv6Datagram) : Exec (Bool × IPv6Datagram × List RouteOutput) :=
  match d.extHdrs.findIdx? (·.type = .routing) with
  | none => .ok (true, d, [])
  | some j => do
      let proc ← Exec.deref .nullDeref d.extHdrs[j]?
      if proc.isSegmentsLeft then
        processRheads j proc.rheads.length 0 (d.cumulLengthInUnits j) d
      else return (true, d, [])

/-- `for_each(route->begin() + 1, route->end(), addAddress)` -/
def addAddresses (rh : HdrExtRte) (route : List Ipv6Addr) : Exec HdrExtRte :=
  route.foldlM HdrExtRte.addAddress rh

abbrev SourceRoutes := StdMap Ipv6Addr (List Ipv6Addr) Ipv6Addr.lt

/-- The route without its first hop goes into a new routing header and the first hop
into the destination. -/
def insertSourceRoute (routes : SourceRoutes) (d : IPv6Datagram) : Exec (Bool × IPv6Datagram) :=
  match routes[d.destAddress]? with
  | none => .ok (false, d)
  | some route => do
      let present ← d.findHeader .routing
      if present.isSome then return (false, d)
      else do
        let (pointer, d) ← d.acquireRoutingInterface
        let j ← Exec.deref .nullDeref pointer
        let proc ← Exec.deref .nullDeref d.extHdrs[j]?
        let (i, proc) := match proc.routingHeader type0RtHdr with
          | some i => (i, proc)
          | none => (proc.rheads.length, (proc.addRoutingHeader (HdrExtRte.create type0RtHdr)).2)
        let rh ← Exec.deref .nullDeref proc.rheads[i]?
        let rh ← addAddresses rh (route.drop 1)
        let d := { d with extHdrs := d.extHdrs.set j { proc with rheads := proc.rheads.set i rh } }
        Exec.assert (route.getLast? = some d.destAddress)
        let first ← Exec.deref .outOfBounds route.head?
        return (true, { d with destAddress := first })

/-- The destinations a datagram takes when it arrives with these hop limits, one after
the other, and the datagram where it is not sent on. -/
def travel : List (BitVec 16) → IPv6Datagram → Exec (List Ipv6Addr × IPv6Datagram)
  | [], d => .ok ([d.destAddress], d)
  | hopLimit :: rest, d => do
      let (_, _, sent) ← processRouting { d with hopLimit }
      match sent with
      | [.routingOut next] => do
          let (visited, last) ← travel rest next
          return (d.destAddress :: visited, last)
      | _ => return ([d.destAddress], d)

end IPv6Datagram

end IPv6Suite
