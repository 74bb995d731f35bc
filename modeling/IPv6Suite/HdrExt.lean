import IPv6Suite.Lib.Exec
import IPv6Suite.IPv6Address
import Mathlib.Algebra.GroupWithZero.Nat

namespace IPv6Suite

open Lib

inductive IPv6ExtHeader where
  | uninitialised
  | hop
  | routing
  | fragment
  | dest
  | esp
  | auth
deriving DecidableEq

namespace IPv6ExtHeader

/-- The values of the enumeration. -/
def value : IPv6ExtHeader → Int
  | uninitialised => -1
  | hop => 0
  | routing => 43
  | fragment => 44
  | dest => 60
  | esp => 50
  | auth => 51

/-- The type as it is stored in an `unsigned char`. -/
def octet (t : IPv6ExtHeader) : BitVec 8 := BitVec.ofInt 8 t.value

end IPv6ExtHeader

def extUnitOctets : Nat := 1

def type0RtHdr : BitVec 8 := 0

def type2RtHdr : BitVec 8 := 2

/-- A routing header and the structure `ipv6_ext_rt0_hdr` it owns, and whether it is an object of
the derived class `MIPv6RteOpt`. -/
structure HdrExtRte where
  nextHeader : BitVec 8
  hdrExtLen : BitVec 8
  routingType : BitVec 8
  segmentsLeft : BitVec 8
  addr : List Ipv6Addr
  isMIPv6RteOpt : Bool
deriving DecidableEq

namespace HdrExtRte

def create (rtType : BitVec 8) : HdrExtRte := ⟨0, 0, rtType, 0, [], false⟩

def nAddr (rh : HdrExtRte) : Nat := rh.hdrExtLen.toNat / 2

/-- `lengthInUnits()`: the addresses and the fixed part, in octets. -/
def lengthInUnits (rh : HdrExtRte) : Nat := rh.nAddr * 16 + 8

/-- The copy is created with routing type 0, and a header without addresses copies
nothing. -/
def dup (src : HdrExtRte) : HdrExtRte :=
  if 0 < src.nAddr then
    { nextHeader := src.nextHeader
      hdrExtLen := src.hdrExtLen
      routingType := type0RtHdr
      segmentsLeft := src.segmentsLeft
      addr := src.addr.take src.nAddr
      isMIPv6RteOpt := src.isMIPv6RteOpt }
  else { create type0RtHdr with isMIPv6RteOpt := src.isMIPv6RteOpt }

def setSegmentsLeft (rh : HdrExtRte) (segments : Nat) : Exec HdrExtRte := do
  Exec.assert (0 < segments ∧ segments < 256)
  return { rh with segmentsLeft := BitVec.ofNat 8 segments }

def setHdrExtLen (rh : HdrExtRte) (octetUnits : Nat) : Exec HdrExtRte := do
  Exec.assert (0 < octetUnits ∧ octetUnits < 256)
  return { rh with hdrExtLen := BitVec.ofNat 8 octetUnits }

/-- The first `segmentsLeft` addresses are copied and the new one is put last. -/
def addAddress (rh : HdrExtRte) (appendAddr : Ipv6Addr) : Exec HdrExtRte := do
  Exec.assert (rh.routingType = type0RtHdr ∨ rh.routingType = type2RtHdr)
  let addr := rh.addr.take rh.segmentsLeft.toNat
  let rh ← rh.setSegmentsLeft (rh.segmentsLeft.toNat + 1)
  let rh ← rh.setHdrExtLen (rh.hdrExtLen.toNat + 2)
  return { rh with addr := addr ++ [appendAddr] }

end HdrExtRte

/-- An extension header. `rheads` are the routing headers a `HdrExtRteProc` holds, `destOpts` the
home addresses of the options of a `HdrExtDestProc`, which has no other options. -/
structure HdrExtProc where
  type : IPv6ExtHeader
  nextHeader : BitVec 8
  rheads : List HdrExtRte
  destOpts : List Ipv6Addr
deriving DecidableEq

namespace HdrExtProc

def create (type : IPv6ExtHeader) : HdrExtProc := ⟨type, 0, [], []⟩

/-- `HdrExtProc::dup()`: the copy of a fragment header takes over only its fragment id. -/
def dup (proc : HdrExtProc) : HdrExtProc :=
  match proc.type with
  | .fragment => create .fragment
  | .routing => { proc with rheads := proc.rheads.map (·.dup) }
  | _ => proc

@[simp] theorem type_dup (proc : HdrExtProc) : proc.dup.type = proc.type := by
  unfold dup
  split <;> simp_all [create]

/-- `lengthInUnits()`, in octets. -/
def lengthInUnits (proc : HdrExtProc) : Nat :=
  match proc.type with
  | .routing => (proc.rheads.map (·.lengthInUnits)).sum
  | .fragment => 8
  | .dest => 8 + 16
  | _ => 0

def isSegmentsLeft (proc : HdrExtProc) : Bool := proc.rheads.any (·.segmentsLeft ≠ 0)

def routingHeader (proc : HdrExtProc) (rtType : BitVec 8) : Option Nat :=
  proc.rheads.findIdx? (·.routingType = rtType)

/-- At most one routing header of a type is held. -/
def addRoutingHeader (proc : HdrExtProc) (rh : HdrExtRte) : Bool × HdrExtProc :=
  if proc.rheads.any (·.routingType = rh.routingType) then (false, proc)
  else (true, { proc with rheads := proc.rheads ++ [rh] })

def getOption (proc : HdrExtProc) : Option Ipv6Addr := proc.destOpts.head?

/-- At most one option of a type is added. -/
def addOption (proc : HdrExtProc) (homeAddr : Ipv6Addr) : Bool × HdrExtProc :=
  if proc.destOpts.isEmpty then (true, { proc with destOpts := proc.destOpts ++ [homeAddr] })
  else (false, proc)

end HdrExtProc

end IPv6Suite
