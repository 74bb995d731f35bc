import IPv6Suite.HdrExt
import IPv6Suite.Lib.Lists
import IPv6Suite.Lib.Machine

namespace IPv6Suite

open Lib

/-- What a datagram carries, with its transport protocol: a mobility message, which may be a
Binding Update, another datagram, which may have a mobility message, or data of an upper layer. -/
inductive EncapsulatedMsg where
  | mobility (bu : Bool) (message : List (BitVec 8))
  | datagram (mobility : Bool) (message : List (BitVec 8))
  | upper (protocol : BitVec 8) (message : List (BitVec 8))
deriving DecidableEq

/-- A datagram with its extension headers. The cached pointers are positions in
`extHdrs`; `hopLimit` is a `short`. -/
structure IPv6Datagram where
  srcAddress : Ipv6Addr
  destAddress : Ipv6Addr
  hopLimit : BitVec 16
  inputPort : Int
  outputPort : Int
  nextHeader : BitVec 8
  extHdrs : List HdrExtProc
  routeHdr : Option Nat
  fragHdr : Option Nat
  destHdr : Option Nat
  encapsulatedMsg : EncapsulatedMsg
deriving DecidableEq

namespace IPv6Datagram

def create (src dest : Ipv6Addr) : IPv6Datagram where
  srcAddress := src
  destAddress := dest
  hopLimit := 0
  inputPort := -1
  outputPort := -1
  nextHeader := 59
  extHdrs := []
  routeHdr := none
  fragHdr := none
  destHdr := none
  encapsulatedMsg := .upper 59 []

/-- The copy constructor: headers are copied one by one, cached pointers are not. -/
def dup (src : IPv6Datagram) : IPv6Datagram :=
  { src with
    extHdrs := src.extHdrs.map (·.dup)
    routeHdr := none
    fragHdr := none
    destHdr := none }

/-- `operator=` also leaves the cached pointers of the datagram assigned to. -/
def assign (dest rhs : IPv6Datagram) : IPv6Datagram :=
  { rhs.dup with routeHdr := dest.routeHdr, fragHdr := dest.fragHdr, destHdr := dest.destHdr }

/-- The header is appended and the one before it, or else the datagram, links to it. -/
def pushExtHdr (d : IPv6Datagram) (hdrType : IPv6ExtHeader) : IPv6Datagram :=
  { d with
    nextHeader := if d.extHdrs.isEmpty then hdrType.octet else d.nextHeader
    extHdrs := d.extHdrs.modify (d.extHdrs.length - 1) ({ · with nextHeader := hdrType.octet }) ++
      [HdrExtProc.create hdrType] }

/-- The position of the new header. There is none for the hop-by-hop type, and
`opp_error` ends the simulation for the types that are not supported. -/
def addExtHdr (d : IPv6Datagram) (hdrType : IPv6ExtHeader) : Exec (Option Nat × IPv6Datagram) :=
  match hdrType with
  | .hop => .ok (none, d)
  | .dest | .routing | .fragment => .ok (some d.extHdrs.length, d.pushExtHdr hdrType)
  | .esp | .auth | .uninitialised => .error .fatalError

/-- The loop of `findHeader`: `*(++it)` reads past the end after the last header. -/
def findLinked (nextHdr : IPv6ExtHeader) : Nat → List HdrExtProc → Exec (Option Nat)
  | _, [] => .ok none
  | i, proc :: rest =>
      if (proc.nextHeader.toNat : Int) = nextHdr.value then
        if rest.isEmpty then .error .outOfBounds else .ok (some (i + 1))
      else findLinked nextHdr (i + 1) rest

/-- The position of the header found. -/
def findHeader (d : IPv6Datagram) (nextHdr : IPv6ExtHeader) : Exec (Option Nat) :=
  if (d.nextHeader.toNat : Int) = nextHdr.value ∧ ¬ d.extHdrs.isEmpty then .ok (some 0)
  else findLinked nextHdr 0 d.extHdrs

/-- The three acquire functions: what is cached, or found, or else a new header. With a
pointer cached they go on to add another header. -/
def acquire (cached : IPv6Datagram → Option Nat) (cache : Option Nat → IPv6Datagram → IPv6Datagram)
    (hdrType : IPv6ExtHeader) (d : IPv6Datagram) : Exec (Option Nat × IPv6Datagram) := do
  let found ← (if (cached d).isNone then d.findHeader hdrType else .ok none)
  match found with
  | some i => do
      Exec.assert ((d.extHdrs[i]?).map (·.type) = some hdrType)
      return (some i, cache (some i) d)
  | none => do
      let (proc, d) ← d.addExtHdr hdrType
      return (proc, cache proc d)

def acquireRoutingInterface : IPv6Datagram → Exec (Option Nat × IPv6Datagram) :=
  acquire (·.routeHdr) (fun proc d => { d with routeHdr := proc }) .routing

def acquireFragInterface : IPv6Datagram → Exec (Option Nat × IPv6Datagram) :=
  acquire (·.fragHdr) (fun proc d => { d with fragHdr := proc }) .fragment

def acquireDestInterface : IPv6Datagram → Exec (Option Nat × IPv6Datagram) :=
  acquire (·.destHdr) (fun proc d => { d with destHdr := proc }) .dest

/-- `getNextHeader(fromHdrExt)` by position, from the first header for none. -/
def getNextHeader (d : IPv6Datagram) (fromHdrExt : Option Nat) : Option Nat :=
  match fromHdrExt with
  | none => if d.extHdrs.isEmpty then none else some 0
  | some i => if i + 1 < d.extHdrs.length then some (i + 1) else none

/-- Only the links of the headers before the new one change. -/
theorem map_pushExtHdr {β : Type} {g : HdrExtProc → β}
    (same : ∀ (proc : HdrExtProc) (next : BitVec 8), g { proc with nextHeader := next } = g proc)
    (d : IPv6Datagram) (t : IPv6ExtHeader) :
    (d.pushExtHdr t).extHdrs.map g = d.extHdrs.map g ++ [g (HdrExtProc.create t)] := by
  unfold pushExtHdr
  rw [List.map_append, Lists.map_modify_of_same (same · t.octet)]
  rfl

end IPv6Datagram

inductive HeaderOp where
  | addExtHdr (hdrType : IPv6ExtHeader)
  | acquireRoutingInterface
  | acquireFragInterface
  | acquireDestInterface

def HeaderOp.step (d : IPv6Datagram) : HeaderOp → Exec IPv6Datagram
  | addExtHdr hdrType => do return (← d.addExtHdr hdrType).2
  | acquireRoutingInterface => do return (← d.acquireRoutingInterface).2
  | acquireFragInterface => do return (← d.acquireFragInterface).2
  | acquireDestInterface => do return (← d.acquireDestInterface).2

inductive CopyOp where
  | dup
  | assign (dest : IPv6Datagram)

def CopyOp.copy (d : IPv6Datagram) : CopyOp → IPv6Datagram
  | dup => d.dup
  | assign dest => dest.assign d

end IPv6Suite
