import IPv6Suite.EtherMAC
import IPv6Suite.Lib.Earliest
import IPv6Suite.Lib.Ensures
import Mathlib.Algebra.Order.Ring.Rat

namespace IPv6Suite

open Lib

namespace MACAddress

def isxdigit (c : Char) : Bool :=
  c.isDigit || ('a' ≤ c && c ≤ 'f') || ('A' ≤ c && c ≤ 'F')

def hexDigit (c : Char) : BitVec 8 :=
  if c.isDigit then BitVec.ofNat 8 (c.toNat - '0'.toNat)
  else if c.isLower then BitVec.ofNat 8 (c.toNat - 'a'.toNat + 10)
  else BitVec.ofNat 8 (c.toNat - 'A'.toNat + 10)

/-- The bytes of `destbuf` and how many of them were converted. A byte of which a digit is missing is zero. -/
def hextobin : Nat → List Char → List (BitVec 8) × Nat
  | 0, _ => ([], 0)
  | size + 1, hexstr =>
      match hexstr.dropWhile (!isxdigit ·) with
      | [] => (0 :: (hextobin size []).1, (hextobin size []).2)
      | high :: rest =>
          match rest.dropWhile (!isxdigit ·) with
          | [] => (0 :: (hextobin size []).1, (hextobin size []).2)
          | low :: rest =>
              ((hexDigit high <<< 4 + hexDigit low) :: (hextobin size rest).1, (hextobin size rest).2 + 1)

def setAddress (hexstr : List Char) : Exec MACAddress :=
  if (hextobin 6 hexstr).2 ≠ 6 then .error .fatalError
  else .ok ((hextobin 6 hexstr).1.foldl (fun address byte => address <<< 8 ||| byte.setWidth 48) 0)

end MACAddress

/-- The chunks that `fgets` reads with a buffer of `MAX_LINE` bytes, of which the current one has `room` left -/
def fgetsChunks : Nat → List Char → List Char → List (List Char)
  | _, chunk, [] => if chunk = [] then [] else [chunk]
  | room, chunk, c :: fp =>
      if c = '\n' ∨ room ≤ 1 then (chunk ++ [c]) :: fgetsChunks 99 [] fp else fgetsChunks (room - 1) (chunk ++ [c]) fp

/-- The lines of the file, without CR and LF at their ends -/
def fgetlines (fp : List Char) : List (List Char) :=
  (fgetsChunks 99 [] fp).map fun chunk =>
    ((chunk.takeWhile (· ≠ Char.ofNat 0)).reverse.dropWhile fun c => c = '\n' || c = '\r').reverse

def strtok (line : List Char) : Option (List Char × List Char) :=
  let token := line.dropWhile fun c => c = ' ' || c = '\t'
  if token = [] then none
  else some (token.span fun c => !(c = ' ' || c = '\t'))

/-- White space and a sign may come before the digits, and anything after them. -/
def atoi (str : List Char) : Int :=
  let digits (str : List Char) : Int := (str.takeWhile Char.isDigit).foldl (fun n c => 10 * n + (c.toNat - '0'.toNat)) 0
  match str.dropWhile fun c => c.isWhitespace || c = Char.ofNat 11 || c = Char.ofNat 12 with
  | '-' :: rest => - digits rest
  | '+' :: rest => digits rest
  | rest => digits rest

structure AddressEntry where
  portno : Int
  insertionTime : SimTime
deriving DecidableEq

/-- The order of `compareTo` is that of the bytes. -/
abbrev AddressTable := StdMap MACAddress AddressEntry (· < ·)

def addTableLine (addresstable : AddressTable) (line : List Char) : Exec AddressTable :=
  if line.head? = some '#' then .ok addresstable
  else match strtok line with
    | none => .ok addresstable
    | some (hexaddress, rest) =>
        match strtok rest with
        | none => .error .fatalError
        | some (portno, _) => do
            let address ← MACAddress.setAddress hexaddress
            return addresstable.insert address ⟨atoi portno, 0⟩

def readAddressTable (file : List Char) : Exec AddressTable :=
  (fgetlines file).foldlM addTableLine ∅

structure MACRelayUnitBase where
  numPorts : Nat
  addressTableSize : Nat
  agingTime : SimTime
  addresstable : AddressTable

namespace MACRelayUnitBase

/-- The unit after `initialize`, with the contents of the address table file if one is given. -/
def start (numPorts : Nat) (addressTableSize : Int) (agingTime : SimTime) (addressTableFile : Option (List Char)) :
    Exec MACRelayUnitBase := do
  let addresstable ← (match addressTableFile with
    | none => .ok ∅
    | some file => readAddressTable file)
  return ⟨numPorts, if addressTableSize ≥ 0 then addressTableSize.toNat else 0,
    if agingTime > 0 then agingTime else 10, addresstable⟩

def Aged (u : MACRelayUnitBase) (now : SimTime) (entry : AddressEntry) : Prop :=
  entry.insertionTime + u.agingTime ≤ now
deriving Decidable

def removeAgedEntriesFromTable (u : MACRelayUnitBase) (now : SimTime) : MACRelayUnitBase :=
  { u with addresstable := u.addresstable.filter fun _ entry => ¬ u.Aged now entry }

def removeOldestTableEntry (u : MACRelayUnitBase) (now : SimTime) : MACRelayUnitBase :=
  match (earliest AddressEntry.insertionTime (now + 1) u.addresstable.toList).1 with
  | some oldest => { u with addresstable := u.addresstable.erase oldest }
  | none => u

/-- What `updateTableWithAddress` does for a new address. The table is full only if it has exactly
`addressTableSize` entries. -/
def makeRoom (u : MACRelayUnitBase) (now : SimTime) : MACRelayUnitBase :=
  if u.addressTableSize ≠ 0 ∧ u.addresstable.size = u.addressTableSize then
    let u := u.removeAgedEntriesFromTable now
    if u.addresstable.size = u.addressTableSize then u.removeOldestTableEntry now else u
  else u

def updateTableWithAddress (u : MACRelayUnitBase) (now : SimTime) (address : MACAddress) (portno : Int) :
    MACRelayUnitBase :=
  if address ∉ u.addresstable then
    { u.makeRoom now with addresstable := (u.makeRoom now).addresstable.insert address ⟨portno, now⟩ }
  else { u with addresstable := u.addresstable.insert address ⟨portno, now⟩ }

/-- -1 if the address is not known. -/
def getPortForAddress (u : MACRelayUnitBase) (now : SimTime) (address : MACAddress) : Int × MACRelayUnitBase :=
  match u.addresstable[address]? with
  | none => (-1, u)
  | some entry =>
      if u.Aged now entry then (-1, { u with addresstable := u.addresstable.erase address }) else (entry.portno, u)

def broadcastFrame (u : MACRelayUnitBase) (frame : EtherFrame) (inputport : Nat) : List (Nat × EtherFrame) :=
  ((List.range u.numPorts).filter (· ≠ inputport)).map (·, frame)

/-- The kernel accepts only a gate that exists. -/
def send (u : MACRelayUnitBase) (frame : EtherFrame) (port : Int) : Exec (Nat × EtherFrame) :=
  if port < u.numPorts then .ok (port.toNat, frame) else .error .fatalError

/-- The frames that are sent, each with its output port -/
def handleAndDispatchFrame (u : MACRelayUnitBase) (now : SimTime) (frame : EtherFrame) (inputport : Nat) :
    Exec (MACRelayUnitBase × List (Nat × EtherFrame)) :=
  let u := u.updateTableWithAddress now frame.src inputport
  if frame.dest.isBroadcast then .ok (u, u.broadcastFrame frame inputport)
  else
    let (outputport, u) := u.getPortForAddress now frame.dest
    if inputport = outputport then .ok (u, [])
    else if outputport ≥ 0 then do
      let sent ← u.send frame outputport
      return (u, [sent])
    else .ok (u, u.broadcastFrame frame inputport)

end MACRelayUnitBase

end IPv6Suite
