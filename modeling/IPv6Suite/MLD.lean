import IPv6Suite.Lib.Bytes
import IPv6Suite.MLDv2Record

namespace IPv6Suite

open Lib RecordType

/-- The bytes of an address in memory -/
def Ipv6Addr.bytes (addr : Ipv6Addr) : Bytes :=
  Bytes.ofNat 4 addr.extreme.toNat ++ Bytes.ofNat 4 addr.high.toNat ++
    Bytes.ofNat 4 addr.normal.toNat ++ Bytes.ofNat 4 addr.low.toNat

def Ipv6Addr.ofBytes (bytes : Bytes) : Ipv6Addr where
  extreme := BitVec.ofNat 32 (Bytes.toNat (bytes.take 4))
  high := BitVec.ofNat 32 (Bytes.toNat ((bytes.drop 4).take 4))
  normal := BitVec.ofNat 32 (Bytes.toNat ((bytes.drop 8).take 4))
  low := BitVec.ofNat 32 (Bytes.toNat ((bytes.drop 12).take 4))

/-- The header of a record in a report -/
structure MARHeader where
  type : RecordType
  auxDataLen : BitVec 8
  ns : BitVec 16
  ma : Ipv6Addr
deriving DecidableEq

namespace MARHeader

def bytes (h : MARHeader) : Bytes :=
  [h.type, h.auxDataLen] ++ Bytes.ofNat 2 h.ns.toNat ++ h.ma.bytes

def ofBytes (bytes : Bytes) : MARHeader where
  type := bytes.headD 0
  auxDataLen := bytes.tail.headD 0
  ns := BitVec.ofNat 16 (Bytes.toNat ((bytes.drop 2).take 2))
  ma := Ipv6Addr.ofBytes (bytes.drop 4)

end MARHeader

/-- The first bytes of a record in memory -/
def MARecord.header (r : MARecord) : MARHeader := ⟨r.type, r.auxDataLen, r.ns, r.ma⟩

/-- A report, an `MLDv2Message` with a number of records and its options -/
structure MLDv2Report where
  noMAR : BitVec 16
  opt : Bytes
deriving DecidableEq

namespace MLDv2Report

def create (size : BitVec 32) : Exec MLDv2Report :=
  if 0 ≤ size.toInt then .ok ⟨0, List.replicate size.toNat 0⟩ else .error .fatalError

def setNoMAR (msg : MLDv2Report) (num : BitVec 16) : Exec MLDv2Report := do
  Exec.assert (0 ≤ num.toInt)
  return { msg with noMAR := num }

def setOpt (msg : MLDv2Report) (src : Bytes) (offset : Nat) : Exec MLDv2Report := do
  let opt ← msg.opt.write offset src
  return { msg with opt }

def getOpt (msg : MLDv2Report) (offset size : Nat) : Exec Bytes := msg.opt.read offset size

/-- The sources of a record, one after the other, and the offset behind them -/
def setSources (msg : MLDv2Report) (offset : Nat) : List Ipv6Addr → Exec (MLDv2Report × Nat)
  | [] => .ok (msg, offset)
  | sa :: rest => do
      let msg ← msg.setOpt sa.bytes offset
      msg.setSources (offset + 16) rest

def getSources (msg : MLDv2Report) (offset : Nat) : Nat → Exec (List Ipv6Addr)
  | 0 => .ok []
  | n + 1 => do
      let sa ← msg.getOpt offset 16
      let rest ← msg.getSources (offset + 16) n
      return Ipv6Addr.ofBytes sa :: rest

/-- A record in `MLDv2ReportGQ` and `MLDv2ReportMASSQ`. For another type than these two the pointer to
the sources is still at the end of a list. -/
def setCurrent (msg : MLDv2Report) (offset : Nat) (r : MARecord) : Exec (MLDv2Report × Nat) := do
  let msg ← msg.setOpt r.header.bytes offset
  msg.setSources (offset + 20) ((r.sal r.type).map (·.sa))

/-- A record in `MLDv2ChangeReport`, with the included sources whatever its type is -/
def setChange (msg : MLDv2Report) (offset : Nat) (r : MARecord) : Exec (MLDv2Report × Nat) := do
  let count := BitVec.ofNat 16 r.inSAL.length
  let msg ← msg.setOpt [r.type] offset
  let msg ← msg.setOpt (Bytes.ofNat 2 count.toNat) (offset + 2)
  let msg ← msg.setOpt r.ma.bytes (offset + 4)
  msg.setSources (offset + 20) (r.inSAL.map (·.sa))

def setRecords (set : MLDv2Report → Nat → MARecord → Exec (MLDv2Report × Nat)) (msg : MLDv2Report)
    (offset : Nat) : List MARecord → Exec (MLDv2Report × Nat)
  | [] => .ok (msg, offset)
  | r :: rest => do
      let (msg, offset) ← set msg offset r
      setRecords set msg offset rest

end MLDv2Report

namespace MLDv2Record

/-- `MLDv2ReportGQ` with the report that is sent -/
def reportGQ (lsTable : MLDv2Record) : Exec (MLDv2Report × MLDv2Record) := do
  let (size, lsTable) ← lsTable.sizeofMAL
  let msg ← MLDv2Report.create size
  let msg ← msg.setNoMAR lsTable.nmar
  let (msg, _) ← msg.setRecords MLDv2Report.setCurrent 0 lsTable.mar
  return (msg, lsTable)

/-- `MLDv2ReportMASSQ`, which counts the records itself -/
def reportMASSQ (reportTable : MLDv2Record) : Exec (MLDv2Report × MLDv2Record) := do
  let (size, reportTable) ← reportTable.sizeofMAL
  let msg ← MLDv2Report.create size
  let msg ← msg.setNoMAR reportTable.nmar
  let (msg, _) ← msg.setRecords MLDv2Report.setCurrent 0 reportTable.mar
  let msg ← msg.setNoMAR (BitVec.ofNat 16 reportTable.mar.length)
  return (msg, reportTable.destroyMAL)

def changeReport (headChange : MLDv2Record) : Exec (MLDv2Report × MLDv2Record) := do
  let (size, headChange) ← headChange.sizeofMAL
  let msg ← MLDv2Report.create (8 + size)
  let msg ← msg.setNoMAR headChange.nmar
  let (msg, _) ← msg.setRecords MLDv2Report.setChange 0 headChange.mar
  return (msg, headChange)

/-- What is assigned through a pointer to an included source -/
def modifySA (t : MLDv2Record) (ma sa : Ipv6Addr) (f : SARecord → SARecord) : MLDv2Record :=
  t.modifyMAR ma fun r => { r with inSAL := KeyList.modify (·.sa) sa f r.inSAL }

end MLDv2Record

namespace SARecord

/-- The first place of a listener -/
def listenerSlot (s : SARecord) (addr : Ipv6Addr) : Option (Fin listenerRecord) :=
  (List.finRange listenerRecord).find? fun k => s.listener k = addr

/-- A listener is added at the first free place, if the count leaves one. -/
def listen (s : SARecord) (srcAddr : Ipv6Addr) : SARecord :=
  if s.countListener.toInt < listenerRecord then
    match s.listenerSlot .unspecified with
    | none => s
    | some k =>
        { s with
          listener := fun i => if i = k then srcAddr else s.listener i
          countListener := s.countListener + 1 }
  else s

/-- A listener is removed at its first place. -/
def unlisten (s : SARecord) (srcAddr : Ipv6Addr) : SARecord :=
  match s.listenerSlot srcAddr with
  | none => s
  | some k =>
      { s with
        listener := fun i => if i = k then .unspecified else s.listener i
        countListener := s.countListener - 1 }

end SARecord

/-- A router with its listeners, the sources that it queries and the queries that it has sent, each
with the sources that are queried. -/
structure MLDRouter where
  lsTable : MLDv2Record
  massqTable : MLDv2Record
  queries : List (Ipv6Addr × List Ipv6Addr)

namespace MLDRouter

/-- A router that has started -/
def create : MLDRouter := ⟨.create, .create, []⟩

/-- A source that is no longer queried -/
def endMASSQ (massqTable : MLDv2Record) (ma sa : Ipv6Addr) : MLDv2Record :=
  match massqTable.searchSA ma sa isIn with
  | none => massqTable
  | some _ =>
      let massqTable := (massqTable.delSA ma sa isIn).2
      if (massqTable.searchMAR ma).all (·.inNS = 0) then (massqTable.delMA ma).2 else massqTable

/-- A source in an IS_IN or ALLOW record for a group in include mode -/
def includeSA (rt : MLDRouter) (srcAddr ma sa : Ipv6Addr) : MLDRouter :=
  match rt.lsTable.searchSA ma sa isIn with
  | some _ =>
      { rt with
        massqTable := endMASSQ rt.massqTable ma sa
        lsTable := rt.lsTable.modifySA ma sa fun s => { s with sourceTimer := mldMali }.listen srcAddr }
  | none =>
      { rt with lsTable := (rt.lsTable.addSA ma sa isIn).2.modifySA ma sa (·.listen srcAddr) }

/-- A source in an IS_IN or ALLOW record for a group in exclude mode -/
def includeEx (rt : MLDRouter) (srcAddr ma sa : Ipv6Addr) : MLDRouter :=
  let lsTable := (rt.lsTable.delSA ma sa isEx).2
  match lsTable.searchSA ma sa isIn with
  | some _ => { rt with lsTable }
  | none =>
      { rt with lsTable := (lsTable.addSA ma sa isIn).2.modifySA ma sa (·.listen srcAddr) }

/-- A source in an IS_IN record for a new group -/
def includeNew (rt : MLDRouter) (srcAddr ma sa : Ipv6Addr) : MLDRouter :=
  { rt with lsTable := (rt.lsTable.addSA ma sa isIn).2.modifySA ma sa (·.listen srcAddr) }

/-- A source in a BLOCK record, with whether it is to be queried now. `ns` is what a new record has as
its number of sources. -/
def blockSA (srcAddr ma : Ipv6Addr) (ns : BitVec 16) (state : MLDRouter × Bool) (sa : Ipv6Addr) :
    MLDRouter × Bool :=
  let (rt, bBlock) := state
  match rt.lsTable.searchSA ma sa isIn with
  | none => (rt, bBlock)
  | some s =>
      let lsTable := rt.lsTable.modifySA ma sa (·.unlisten srcAddr)
      if (s.unlisten srcAddr).countListener = 0 then
        let lsTable := lsTable.modifySA ma sa fun s => { s with sourceTimer := mldLlqt - 1 }
        let massqTable := (rt.massqTable.addMA ma block ns).2
        let (added, massqTable) := massqTable.addSA ma sa isIn
        ({ rt with lsTable, massqTable }, bBlock || added)
      else ({ rt with lsTable }, bBlock)

/-- The sources of a BLOCK record; a query for all that are queried for the group is sent if there is
a new one. -/
def blockSources (rt : MLDRouter) (srcAddr ma : Ipv6Addr) (ns : BitVec 16) (sas : List Ipv6Addr) :
    MLDRouter :=
  let (rt, bBlock) := sas.foldl (blockSA srcAddr ma ns) (rt, false)
  if bBlock then
    let queried := ((rt.massqTable.searchMAR ma).map fun r => r.inSAL.map (·.sa)).getD []
    { rt with queries := rt.queries ++ [(ma, queried)] }
  else rt

/-- A record of a report at an offset, with the offset behind what is read of it. The sources are read
only where they are used. -/
def parseRecord (rt : MLDRouter) (msg : MLDv2Report) (srcAddr : Ipv6Addr) (ns : BitVec 16) (offset : Nat) :
    Exec (MLDRouter × Nat) := do
  let header ← msg.getOpt offset 20
  let buf := MARHeader.ofBytes header
  let offset := offset + 20
  let sources := msg.getSources offset buf.ns.toInt.toNat
  match rt.lsTable.searchMAR buf.ma with
  | some r =>
      if r.type = isIn then
        if buf.type = isIn ∨ buf.type = allow then do
          let sas ← sources
          return (sas.foldl (·.includeSA srcAddr buf.ma ·) rt, offset + 16 * sas.length)
        else if buf.type = block then do
          let sas ← sources
          return (rt.blockSources srcAddr buf.ma ns sas, offset + 16 * sas.length)
        else return (rt, offset)
      else if r.type = isEx then
        if buf.type = isIn ∨ buf.type = allow then do
          let sas ← sources
          return (sas.foldl (·.includeEx srcAddr buf.ma ·) rt, offset + 16 * sas.length)
        else if buf.type = isEx ∨ buf.type = toEx then
          let lsTable := rt.lsTable.modifyMAR buf.ma fun r => { r with filterTimer := mldMali }
          return ({ rt with lsTable }, offset)
        else return (rt, offset)
      else return (rt, offset)
  | none => do
      let rt := { rt with lsTable := (rt.lsTable.addMA buf.ma buf.type ns).2 }
      if buf.type = isIn then do
        let sas ← sources
        return (sas.foldl (·.includeNew srcAddr buf.ma ·) rt, offset + 16 * sas.length)
      else return (rt, offset)

def parseRecords (msg : MLDv2Report) (srcAddr : Ipv6Addr) (ns : BitVec 16) :
    Nat → MLDRouter → Nat → Exec (MLDRouter × Nat)
  | 0, rt, offset => .ok (rt, offset)
  | n + 1, rt, offset => do
      let (rt, offset) ← rt.parseRecord msg srcAddr ns offset
      parseRecords msg srcAddr ns n rt offset

/-- `MLDv2RouterParsingMsg` of a report -/
def parseMsg (rt : MLDRouter) (msg : MLDv2Report) (srcAddr : Ipv6Addr) (ns : BitVec 16) : Exec MLDRouter :=
  (·.1) <$> parseRecords msg srcAddr ns msg.noMAR.toNat rt 0

end MLDRouter

end IPv6Suite
