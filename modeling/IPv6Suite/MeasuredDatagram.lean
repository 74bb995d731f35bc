import IPv6Suite.MIPv6SendPacketCheck
import IPv6Suite.SourceRoute

namespace IPv6Suite

open Lib

def ipv6HeaderBits : Nat := 40 * 8

/-- A datagram with its length as a message, and the length of the message it encapsulates, in bits -/
structure MeasuredDatagram where
  dgram : IPv6Datagram
  length : Nat
  pdu : Option Nat
deriving DecidableEq

namespace IPv6Datagram

/-- `addOption` of the destination options header `j` -/
def addOption (j : Nat) (homeAddr : Ipv6Addr) (d : IPv6Datagram) : Exec (Bool × IPv6Datagram) := do
  let destProc ← Exec.deref .nullDeref (d.extHdrs[j]?.filter (·.type = .dest))
  let (added, destProc) := destProc.addOption homeAddr
  return (added, { d with extHdrs := d.extHdrs.set j destProc })

end IPv6Datagram

namespace MeasuredDatagram

/-- A second message cannot be encapsulated. -/
def encapsulate (d : MeasuredDatagram) (length : Nat) : Exec MeasuredDatagram :=
  match d.pdu with
  | none => .ok { d with length := d.length + length, pdu := some length }
  | some _ => .error .fatalError

def create (src dest : Ipv6Addr) : MeasuredDatagram := ⟨IPv6Datagram.create src dest, ipv6HeaderBits, none⟩

def addLength (d : MeasuredDatagram) (length : Nat) : MeasuredDatagram := { d with length := d.length + length }

/-- The length of a header when it is created is added. -/
def addExtHdr (d : MeasuredDatagram) (hdrType : IPv6ExtHeader) : Exec (Option Nat × MeasuredDatagram) := do
  let (pointer, dgram) ← d.dgram.addExtHdr hdrType
  let d := { d with dgram }
  match pointer with
  | none => return (none, d)
  | some j => do
      let proc ← Exec.deref .nullDeref dgram.extHdrs[j]?
      return (some j, d.addLength (proc.lengthInUnits * extUnitOctets * 8))

def acquire (cached : IPv6Datagram → Option Nat) (cache : Option Nat → IPv6Datagram → IPv6Datagram)
    (hdrType : IPv6ExtHeader) (d : MeasuredDatagram) : Exec (Option Nat × MeasuredDatagram) := do
  let found ← (if (cached d.dgram).isNone then d.dgram.findHeader hdrType else .ok none)
  match found with
  | some i => do
      Exec.assert ((d.dgram.extHdrs[i]?).map (·.type) = some hdrType)
      return (some i, { d with dgram := cache (some i) d.dgram })
  | none => do
      let (proc, d) ← d.addExtHdr hdrType
      return (proc, { d with dgram := cache proc d.dgram })

def acquireRoutingInterface : MeasuredDatagram → Exec (Option Nat × MeasuredDatagram) :=
  acquire (·.routeHdr) (fun proc d => { d with routeHdr := proc }) .routing

def acquireFragInterface : MeasuredDatagram → Exec (Option Nat × MeasuredDatagram) :=
  acquire (·.fragHdr) (fun proc d => { d with fragHdr := proc }) .fragment

def acquireDestInterface : MeasuredDatagram → Exec (Option Nat × MeasuredDatagram) :=
  acquire (·.destHdr) (fun proc d => { d with destHdr := proc }) .dest

/-- An option does not change the length. -/
def addOption (j : Nat) (homeAddr : Ipv6Addr) (d : MeasuredDatagram) : Exec (Bool × MeasuredDatagram) := do
  let (added, dgram) ← d.dgram.addOption j homeAddr
  return (added, { d with dgram })

/-- The length of the whole routing header is added after the type 2 header is in it. -/
def addRoutingHeader (hoa : Ipv6Addr) (d : MeasuredDatagram) : Exec (Bool × MeasuredDatagram) := do
  let (pointer, d) ← d.acquireRoutingInterface
  let j ← Exec.deref .nullDeref pointer
  let rtProc ← Exec.deref .nullDeref d.dgram.extHdrs[j]?
  Exec.assert (rtProc.routingHeader type2RtHdr = none)
  let rt2 ← HdrExtRte.createMIPv6 hoa
  let rtProc := (rtProc.addRoutingHeader rt2).2
  let d := { d with dgram := { d.dgram with extHdrs := d.dgram.extHdrs.set j rtProc } }
  return (true, d.addLength (rtProc.lengthInUnits * 8))

/-- The addresses that are added do not change the length. -/
def insertSourceRoute (routes : IPv6Datagram.SourceRoutes) (d : MeasuredDatagram) :
    Exec (Bool × MeasuredDatagram) :=
  match routes[d.dgram.destAddress]? with
  | none => .ok (false, d)
  | some route => do
      let present ← d.dgram.findHeader .routing
      if present.isSome then return (false, d)
      else do
        let (pointer, d) ← d.acquireRoutingInterface
        let j ← Exec.deref .nullDeref pointer
        let proc ← Exec.deref .nullDeref d.dgram.extHdrs[j]?
        let (i, proc) := match proc.routingHeader type0RtHdr with
          | some i => (i, proc)
          | none => (proc.rheads.length, (proc.addRoutingHeader (HdrExtRte.create type0RtHdr)).2)
        let rh ← Exec.deref .nullDeref proc.rheads[i]?
        let rh ← IPv6Datagram.addAddresses rh (route.drop 1)
        let dgram := { d.dgram with extHdrs := d.dgram.extHdrs.set j { proc with rheads := proc.rheads.set i rh } }
        Exec.assert (route.getLast? = some dgram.destAddress)
        let first ← Exec.deref .outOfBounds route.head?
        return (true, { d with dgram := { dgram with destAddress := first } })

/-- The calls that change what a datagram carries -/
inductive Op where
  | encapsulate (length : Nat)
  | addExtHdr (hdrType : IPv6ExtHeader)
  | acquireRoutingInterface
  | acquireFragInterface
  | acquireDestInterface
  | addOption (j : Nat) (homeAddr : Ipv6Addr)
  | addRoutingHeader (hoa : Ipv6Addr)
  | insertSourceRoute (routes : IPv6Datagram.SourceRoutes)

def step (d : MeasuredDatagram) : Op → Exec MeasuredDatagram
  | .encapsulate length => d.encapsulate length
  | .addExtHdr hdrType => do return (← d.addExtHdr hdrType).2
  | .acquireRoutingInterface => do return (← d.acquireRoutingInterface).2
  | .acquireFragInterface => do return (← d.acquireFragInterface).2
  | .acquireDestInterface => do return (← d.acquireDestInterface).2
  | .addOption j homeAddr => do return (← d.addOption j homeAddr).2
  | .addRoutingHeader hoa => do return (← d.addRoutingHeader hoa).2
  | .insertSourceRoute routes => do return (← d.insertSourceRoute routes).2

end MeasuredDatagram

/-- The same calls on a datagram without its length -/
def IPv6Datagram.carry (d : IPv6Datagram) : MeasuredDatagram.Op → Exec IPv6Datagram
  | .encapsulate _ => .ok d
  | .addExtHdr hdrType => do return (← d.addExtHdr hdrType).2
  | .acquireRoutingInterface => do return (← d.acquireRoutingInterface).2
  | .acquireFragInterface => do return (← d.acquireFragInterface).2
  | .acquireDestInterface => do return (← d.acquireDestInterface).2
  | .addOption j homeAddr => do return (← d.addOption j homeAddr).2
  | .addRoutingHeader hoa => do return (← MIPv6MobilityState.addRoutingHeader hoa d).2
  | .insertSourceRoute routes => do return (← d.insertSourceRoute routes).2

namespace MeasuredDatagram

variable {d d' : MeasuredDatagram} {pointer : Option Nat} {t : IPv6ExtHeader}

theorem addExtHdr_dgram (adds : d.addExtHdr t = .ok (pointer, d')) :
    d.dgram.addExtHdr t = .ok (pointer, d'.dgram) := by
  obtain ⟨⟨j, dgram⟩, adds, measures⟩ := bind_eq_ok.mp adds
  rw [adds]
  cases j with
  | none =>
      cases measures
      rfl
  | some j =>
      obtain ⟨proc, -, ends⟩ := bind_eq_ok.mp measures
      cases ends
      rfl

theorem acquire_dgram {cached : IPv6Datagram → Option Nat} {cache : Option Nat → IPv6Datagram → IPv6Datagram}
    (acquires : acquire cached cache t d = .ok (pointer, d')) :
    IPv6Datagram.acquire cached cache t d.dgram = .ok (pointer, d'.dgram) := by
  obtain ⟨found, search, acquires⟩ := bind_eq_ok.mp acquires
  unfold IPv6Datagram.acquire
  rw [search, ok_bind]
  cases found with
  | some i =>
      obtain ⟨_, typed, ends⟩ := bind_eq_ok.mp acquires
      cases ends
      dsimp only
      rw [typed]
      rfl
  | none =>
      obtain ⟨⟨proc, added⟩, adds, ends⟩ := bind_eq_ok.mp acquires
      cases ends
      dsimp only
      rw [addExtHdr_dgram adds]
      rfl

theorem addOption_dgram {j : Nat} {homeAddr : Ipv6Addr} {added : Bool}
    (adds : d.addOption j homeAddr = .ok (added, d')) : d.dgram.addOption j homeAddr = .ok (added, d'.dgram) := by
  obtain ⟨⟨_, dgram⟩, adds_option, ends⟩ := bind_eq_ok.mp adds
  cases ends
  exact adds_option

theorem addRoutingHeader_dgram {hoa : Ipv6Addr} {added : Bool} (adds : d.addRoutingHeader hoa = .ok (added, d')) :
    MIPv6MobilityState.addRoutingHeader hoa d.dgram = .ok (added, d'.dgram) := by
  obtain ⟨⟨pointer, acquired⟩, acquires, adds⟩ := bind_eq_ok.mp adds
  obtain ⟨j, here, adds⟩ := bind_eq_ok.mp adds
  obtain ⟨rtProc, located, adds⟩ := bind_eq_ok.mp adds
  obtain ⟨_, fresh, adds⟩ := bind_eq_ok.mp adds
  obtain ⟨rt2, creates, ends⟩ := bind_eq_ok.mp adds
  have same : d.dgram.acquireRoutingInterface = .ok (pointer, acquired.dgram) := acquire_dgram acquires
  unfold MIPv6MobilityState.addRoutingHeader
  rw [same, ok_bind]
  dsimp only
  rw [here, ok_bind, located, ok_bind, fresh, ok_bind, creates, ok_bind]
  cases ends
  rfl

theorem insertSourceRoute_dgram {routes : IPv6Datagram.SourceRoutes} {inserted : Bool}
    (inserts : d.insertSourceRoute routes = .ok (inserted, d')) :
    d.dgram.insertSourceRoute routes = .ok (inserted, d'.dgram) := by
  unfold insertSourceRoute at inserts
  unfold IPv6Datagram.insertSourceRoute
  cases configured : routes[d.dgram.destAddress]? with
  | none =>
      rw [configured] at inserts
      cases inserts
      rfl
  | some route =>
      rw [configured] at inserts
      obtain ⟨present, search, inserts⟩ := bind_eq_ok.mp inserts
      dsimp only
      rw [search, ok_bind]
      split at inserts
      · rename_i there
        cases inserts
        rw [if_pos there]
        rfl
      · rename_i absent
        rw [if_neg absent]
        obtain ⟨⟨pointer, acquired⟩, acquires, inserts⟩ := bind_eq_ok.mp inserts
        obtain ⟨j, here, inserts⟩ := bind_eq_ok.mp inserts
        obtain ⟨proc, located, inserts⟩ := bind_eq_ok.mp inserts
        obtain ⟨rh, first, inserts⟩ := bind_eq_ok.mp inserts
        obtain ⟨filled, fills, inserts⟩ := bind_eq_ok.mp inserts
        obtain ⟨_, asserted, inserts⟩ := bind_eq_ok.mp inserts
        obtain ⟨hop, next, ends⟩ := bind_eq_ok.mp inserts
        have same : d.dgram.acquireRoutingInterface = .ok (pointer, acquired.dgram) := acquire_dgram acquires
        rw [same, ok_bind]
        dsimp only
        rw [here, ok_bind, located, ok_bind]
        refine bind_eq_ok.mpr ⟨rh, first, bind_eq_ok.mpr ⟨filled, fills, ?_⟩⟩
        refine bind_eq_ok.mpr ⟨(), asserted, bind_eq_ok.mpr ⟨hop, next, ?_⟩⟩
        cases ends
        rfl

/-- A datagram carries what it carries without its length. -/
theorem step_dgram {op : Op} (steps : d.step op = .ok d') : d.dgram.carry op = .ok d'.dgram := by
  cases op with
  | encapsulate length =>
      unfold step encapsulate at steps
      cases inside : d.pdu with
      | none =>
          simp only [inside] at steps
          cases steps
          rfl
      | some pdu =>
          simp only [inside] at steps
          cases steps
  | addExtHdr hdrType =>
      obtain ⟨⟨pointer, _⟩, adds, ends⟩ := bind_eq_ok.mp steps
      cases ends
      exact bind_eq_ok.mpr ⟨_, addExtHdr_dgram adds, rfl⟩
  | acquireRoutingInterface =>
      obtain ⟨⟨pointer, _⟩, acquires, ends⟩ := bind_eq_ok.mp steps
      cases ends
      exact bind_eq_ok.mpr ⟨_, acquire_dgram acquires, rfl⟩
  | acquireFragInterface =>
      obtain ⟨⟨pointer, _⟩, acquires, ends⟩ := bind_eq_ok.mp steps
      cases ends
      exact bind_eq_ok.mpr ⟨_, acquire_dgram acquires, rfl⟩
  | acquireDestInterface =>
      obtain ⟨⟨pointer, _⟩, acquires, ends⟩ := bind_eq_ok.mp steps
      cases ends
      exact bind_eq_ok.mpr ⟨_, acquire_dgram acquires, rfl⟩
  | addOption j homeAddr =>
      obtain ⟨⟨added, _⟩, adds, ends⟩ := bind_eq_ok.mp steps
      cases ends
      exact bind_eq_ok.mpr ⟨_, addOption_dgram adds, rfl⟩
  | addRoutingHeader hoa =>
      obtain ⟨⟨added, _⟩, adds, ends⟩ := bind_eq_ok.mp steps
      cases ends
      exact bind_eq_ok.mpr ⟨_, addRoutingHeader_dgram adds, rfl⟩
  | insertSourceRoute routes =>
      obtain ⟨⟨inserted, _⟩, inserts, ends⟩ := bind_eq_ok.mp steps
      cases ends
      exact bind_eq_ok.mpr ⟨_, insertSourceRoute_dgram inserts, rfl⟩

theorem run_dgram {ops : List Op} (runs : run step d ops = .ok d') :
    run IPv6Datagram.carry d.dgram ops = .ok d'.dgram := by
  induction ops generalizing d with
  | nil =>
      cases runs
      rfl
  | cons op rest ih =>
      obtain ⟨next, steps, runs⟩ := bind_eq_ok.mp runs
      rw [run_cons, step_dgram steps, ok_bind]
      exact ih runs

end MeasuredDatagram

end IPv6Suite
