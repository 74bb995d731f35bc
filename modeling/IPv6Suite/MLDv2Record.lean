import IPv6Suite.IPv6Address
import IPv6Suite.Lib.KeyList
import IPv6Suite.Lib.Machine
import Mathlib.Data.BitVec

namespace IPv6Suite

open Lib

abbrev RecordType := BitVec 8

namespace RecordType

def isIn : RecordType := 1
def isEx : RecordType := 2
def toIn : RecordType := 3
def toEx : RecordType := 4
def allow : RecordType := 5
def block : RecordType := 6

end RecordType

open RecordType

/-- Multicast Address Listening Interval -/
def mldMali : BitVec 32 := 260

/-- Last Listener Query Time -/
def mldLlqt : BitVec 32 := 2

def marHeader : BitVec 32 := 20

/-- The number of listeners that are kept for a source -/
def listenerRecord : Nat := 1

structure SARecord where
  sa : Ipv6Addr
  sourceTimer : BitVec 32
  countListener : BitVec 8
  listener : Fin listenerRecord → Ipv6Addr

namespace SARecord

def create (sa : Ipv6Addr) (sourceTimer : BitVec 32) : SARecord := ⟨sa, sourceTimer, 0, fun _ => .unspecified⟩

end SARecord

/-- A Multicast Address Record with its sources, their numbers and its sizes in a report -/
structure MARecord where
  type : RecordType
  auxDataLen : BitVec 8
  ns : BitVec 16
  ma : Ipv6Addr
  filterTimer : BitVec 32
  inNS : BitVec 16
  exNS : BitVec 16
  inSize : BitVec 32
  exSize : BitVec 32
  inSAL : List SARecord
  exSAL : List SARecord

namespace MARecord

/-- The number of sources is not set; `ns` is what is there. -/
def create (ma : Ipv6Addr) (type : RecordType) (ns : BitVec 16) : MARecord where
  type
  auxDataLen := 0
  ns
  ma
  filterTimer := mldMali
  inNS := 0
  exNS := 0
  inSize := marHeader
  exSize := marHeader
  inSAL := []
  exSAL := []

/-- The list that is meant by a type; there is none for other types than these two. -/
def sal (r : MARecord) (type : RecordType) : List SARecord :=
  if type = isIn then r.inSAL else if type = isEx then r.exSAL else []

def setNS (r : MARecord) : MARecord :=
  if r.type = isIn then { r with ns := r.inNS } else if r.type = isEx then { r with ns := r.exNS } else r

/-- A source that is new in the list. For other types than these two it is lost. -/
def linkSA (r : MARecord) (sa : Ipv6Addr) (type : RecordType) : MARecord :=
  if type = isIn then
    { r with inSAL := .create sa mldMali :: r.inSAL, inNS := r.inNS + 1, inSize := r.inSize + 16 }
  else if type = isEx then
    { r with exSAL := .create sa 0 :: r.exSAL, exNS := r.exNS + 1, exSize := r.exSize + 16 }
  else r

/-- The head of the list and what is behind it are unlinked apart in the source, in the same way. -/
def unlinkSA (r : MARecord) (sa : Ipv6Addr) (type : RecordType) : MARecord :=
  if type = isIn then
    { r with
      inSAL := KeyList.remove (·.sa) sa r.inSAL, inNS := r.inNS - 1, inSize := r.inSize - 16 }
  else if type = isEx then
    { r with
      exSAL := KeyList.remove (·.sa) sa r.exSAL, exNS := r.exNS - 1, exSize := r.exSize - 16 }
  else r

def destroySAL (r : MARecord) (type : RecordType) : MARecord :=
  let r := if type = isIn then { r with inSAL := [], inNS := 0, inSize := 20 }
    else if type = isEx then { r with exSAL := [], exNS := 0, exSize := 20 }
    else r
  { r with ns := 0 }

/-- `sizeofMAR`, which has no size for other types than these two -/
def sizeofMAR (r : MARecord) : Exec (BitVec 32 × MARecord) := do
  let r := { r with
    inSize := 20 + r.auxDataLen.signExtend 32 + r.inNS.signExtend 32 * 16
    exSize := 20 + r.auxDataLen.signExtend 32 + r.exNS.signExtend 32 * 16 }
  Exec.assert (r.type = isIn ∨ r.type = isEx)
  return (if r.type = isIn then r.inSize else r.exSize, r)

def sizeInMAL (r : MARecord) : Exec (BitVec 32 × MARecord) :=
  if r.type = isIn then .ok (r.inSize, { r with ns := r.inNS })
  else if r.type = isEx then { r with ns := r.exNS }.sizeofMAR
  else .ok (r.inSize, r)

end MARecord

structure MLDv2Record where
  nmar : BitVec 16
  mar : List MARecord

namespace MLDv2Record

def create : MLDv2Record := ⟨0, []⟩

def searchMAR (t : MLDv2Record) (ma : Ipv6Addr) : Option MARecord := KeyList.find (·.ma) ma t.mar

def modifyMAR (t : MLDv2Record) (ma : Ipv6Addr) (f : MARecord → MARecord) : MLDv2Record :=
  { t with mar := KeyList.modify (·.ma) ma f t.mar }

def addMA (t : MLDv2Record) (ma : Ipv6Addr) (type : RecordType) (ns : BitVec 16) : Bool × MLDv2Record :=
  match t.searchMAR ma with
  | none => (true, { nmar := t.nmar + 1, mar := .create ma type ns :: t.mar })
  | some _ => (false, t)

def delMA (t : MLDv2Record) (ma : Ipv6Addr) : Bool × MLDv2Record :=
  match t.searchMAR ma with
  | none => (false, t)
  | some _ => (true, { nmar := t.nmar - 1, mar := KeyList.remove (·.ma) ma t.mar })

def setMAtype (t : MLDv2Record) (ma : Ipv6Addr) (type : RecordType) : Bool × MLDv2Record :=
  match t.searchMAR ma with
  | none => (false, t)
  | some _ => (true, t.modifyMAR ma fun r => { r with type })

/-- The number of records stays as it is. -/
def destroyMAL (t : MLDv2Record) : MLDv2Record := { t with mar := [] }

def searchSA (t : MLDv2Record) (ma sa : Ipv6Addr) (type : RecordType) : Option SARecord :=
  (t.searchMAR ma).bind fun r => KeyList.find (·.sa) sa (r.sal type)

def addSA (t : MLDv2Record) (ma sa : Ipv6Addr) (type : RecordType) : Bool × MLDv2Record :=
  match t.searchMAR ma, t.searchSA ma sa type with
  | none, _ => (false, t)
  | some _, some _ => (false, t)
  | some _, none => (true, t.modifyMAR ma fun r => (r.linkSA sa type).setNS)

def delSA (t : MLDv2Record) (ma sa : Ipv6Addr) (type : RecordType) : Bool × MLDv2Record :=
  match t.searchSA ma sa type with
  | none => (false, t)
  | some _ => (true, t.modifyMAR ma fun r => (r.unlinkSA sa type).setNS)

def sizeofMAL (t : MLDv2Record) : Exec (BitVec 32 × MLDv2Record) := do
  let sizes ← t.mar.mapM MARecord.sizeInMAL
  return ((sizes.map (·.1)).sum, { t with mar := sizes.map (·.2) })

end MLDv2Record

/-- A call on an `MLDv2Record`; `destroySAL` is called with a record of the list. -/
inductive RecordCall where
  | addMA (ma : Ipv6Addr) (type : RecordType) (ns : BitVec 16)
  | delMA (ma : Ipv6Addr)
  | setMAtype (ma : Ipv6Addr) (type : RecordType)
  | addSA (ma sa : Ipv6Addr) (type : RecordType)
  | delSA (ma sa : Ipv6Addr) (type : RecordType)
  | destroySAL (ma : Ipv6Addr) (type : RecordType)
  | destroyMAL

namespace MLDv2Record

def call (t : MLDv2Record) : RecordCall → MLDv2Record
  | .addMA ma type ns => (t.addMA ma type ns).2
  | .delMA ma => (t.delMA ma).2
  | .setMAtype ma type => (t.setMAtype ma type).2
  | .addSA ma sa type => (t.addSA ma sa type).2
  | .delSA ma sa type => (t.delSA ma sa type).2
  | .destroySAL ma type => t.modifyMAR ma (·.destroySAL type)
  | .destroyMAL => t.destroyMAL

def step (t : MLDv2Record) (c : RecordCall) : Exec MLDv2Record := .ok (t.call c)

end MLDv2Record

end IPv6Suite
