import IPv6Suite.HdrExt
import IPv6Suite.Lib.Objects
import IPv6Suite.NDEntry

namespace IPv6Suite

open Lib

def icmpv6HeaderBits : Int := 8 * 8

def managedMask : BitVec 32 := 0x800000
def otherMask : BitVec 32 := 0x400000
def homeAgentMask : BitVec 32 := 0x100000
def isRouterMask : BitVec 32 := 0x80000000
def solicitedMask : BitVec 32 := 0x40000000
def overrideMask : BitVec 32 := 0x20000000

structure ICMPv6NDOptLLAddr where
  source : Bool
  addr : String
  lengthInUnits : BitVec 8
deriving DecidableEq

namespace ICMPv6NDOptLLAddr

def create (source : Bool) (addr : String) (len : BitVec 32) : Exec ICMPv6NDOptLLAddr := do
  Exec.assert (len.toInt ≤ 255)
  return ⟨source, addr, len.setWidth 8⟩

end ICMPv6NDOptLLAddr

structure ICMPv6NDOptMTU where
  mtu : BitVec 32
deriving DecidableEq

namespace ICMPv6NDOptMTU

/-- `mtu` is not initialised; `memory` is what is there. -/
def create (_link_mtu memory : BitVec 32) : ICMPv6NDOptMTU := ⟨memory⟩

def setMTU (_opt : ICMPv6NDOptMTU) (link_mtu : BitVec 32) : ICMPv6NDOptMTU := ⟨link_mtu⟩

end ICMPv6NDOptMTU

/-- The interval is an `unsigned long`. -/
structure ICMPv6NDOptAdvInt where
  advInterval : BitVec 64
deriving DecidableEq

structure HMIPv6ICMPv6NDOptMAP where
  dist : BitVec 32
  pref : BitVec 32
  r : Bool
  expires : BitVec 32
  iface_idx : Nat
  map_addr : Ipv6Addr
deriving DecidableEq

/-- `ICMPv6NDOptPrefix(pe)` -/
def OptPrefix.ofEntry (pe : PrefixEntry) : OptPrefix where
  prefixLen := BitVec.ofNat 8 pe.prefixAddr.prefixLength
  onLink := pe.advOnLink
  autoConf := pe.advAutoFlag
  validLifetime := pe.advValidLifetime
  preferredLifetime := pe.advPrefLifetime
  prefixAddr := pe.prefixAddr.addr
  rtrAddr := pe.advRtrAddr

def OptPrefix.lengthInUnits : Nat := 4

def HMIPv6ICMPv6NDOptMAP.lengthInUnits : Nat := 3

/-- A neighbour discovery message with an address. Only a router advertisement has more options than the
first one. -/
structure ICMPv6NDMessage where
  length : Int
  optInfo : BitVec 32
  address : Ipv6Addr
  opt0 : Option ICMPv6NDOptLLAddr
  opt1 : Option ICMPv6NDOptMTU
  opt2 : Option ICMPv6NDOptAdvInt
  prefixes : List OptPrefix
  mapOpts : List HMIPv6ICMPv6NDOptMAP
deriving DecidableEq

namespace ICMPv6NDMessage

def create : ICMPv6NDMessage := ⟨icmpv6HeaderBits, 0, .unspecified, none, none, none, [], []⟩

/-- A negative length is an error. -/
def setLength (msg : ICMPv6NDMessage) (length : Int) : Exec ICMPv6NDMessage :=
  if 0 ≤ length then .ok { msg with length } else .error .fatalError

def addLength (msg : ICMPv6NDMessage) (length : Int) : Exec ICMPv6NDMessage := msg.setLength (msg.length + length)

def shorten (msg : ICMPv6NDMessage) : Option Nat → Exec ICMPv6NDMessage
  | none => .ok msg
  | some units => msg.setLength (msg.length - units * extUnitOctets * 8)

def removeOptions (msg : ICMPv6NDMessage) : Exec ICMPv6NDMessage := do
  let msg ← msg.shorten (msg.opt0.map (·.lengthInUnits.toNat))
  let msg := { msg with opt0 := none }
  let msg ← msg.shorten (msg.opt1.map fun _ => 1)
  let msg := { msg with opt1 := none }
  let msg ← msg.shorten (msg.opt2.map fun _ => 1)
  return { msg with opt2 := none }

/-- `operator=` of another message -/
def assign (msg src : ICMPv6NDMessage) : Exec ICMPv6NDMessage := do
  let _ ← msg.removeOptions
  return src

/-- The copy constructors assign to a new message. -/
def copy (src : ICMPv6NDMessage) : Exec ICMPv6NDMessage := create.assign src

def setLLAddress (msg : ICMPv6NDMessage) (source : Bool) (addr : String) (len : BitVec 32) :
    Exec ICMPv6NDMessage := do
  Exec.assert (addr ≠ "")
  match msg.opt0 with
  | none => do
      let opt ← ICMPv6NDOptLLAddr.create source addr len
      let msg := { msg with opt0 := some opt }
      msg.addLength (opt.lengthInUnits.toNat * extUnitOctets)
  | some opt => return { msg with opt0 := some { opt with addr } }

def llAddress (msg : ICMPv6NDMessage) : String := (msg.opt0.map (·.addr)).getD ""

def setFlag (msg : ICMPv6NDMessage) (mask : BitVec 32) (flag : Bool) : ICMPv6NDMessage :=
  { msg with optInfo := if flag then msg.optInfo ||| mask else msg.optInfo &&& ~~~mask }

def flag (msg : ICMPv6NDMessage) (mask : BitVec 32) : Bool := msg.optInfo &&& mask ≠ 0

def units (msg : ICMPv6NDMessage) : Nat :=
  ((msg.opt0.map (·.lengthInUnits.toNat)).getD 0) + (if msg.opt1.isSome then 1 else 0) +
    (if msg.opt2.isSome then 1 else 0) + OptPrefix.lengthInUnits * msg.prefixes.length +
    HMIPv6ICMPv6NDOptMAP.lengthInUnits * msg.mapOpts.length

end ICMPv6NDMessage

open ICMPv6NDMessage

namespace ICMPv6NDMRtrAd

def curHopLimit (msg : ICMPv6NDMessage) : BitVec 32 := msg.optInfo >>> 24

def setCurHopLimit (msg : ICMPv6NDMessage) (hopLimit : BitVec 32) : ICMPv6NDMessage :=
  { msg with optInfo := msg.optInfo ||| (hopLimit <<< 24) }

def managed (msg : ICMPv6NDMessage) : Bool := msg.flag managedMask
def setManaged (msg : ICMPv6NDMessage) (managed : Bool) : ICMPv6NDMessage := msg.setFlag managedMask managed

def other (msg : ICMPv6NDMessage) : Bool := msg.flag otherMask
def setOther (msg : ICMPv6NDMessage) (other : Bool) : ICMPv6NDMessage := msg.setFlag otherMask other

def routerLifetime (msg : ICMPv6NDMessage) : BitVec 32 := msg.optInfo &&& 0xFFFF

def setRouterLifetime (msg : ICMPv6NDMessage) (routerLife : BitVec 32) : ICMPv6NDMessage :=
  { msg with optInfo := msg.optInfo ||| routerLife }

def isHomeAgent (msg : ICMPv6NDMessage) : Bool := msg.flag homeAgentMask

/-- The times are words of the address. -/
def reachableTime (msg : ICMPv6NDMessage) : BitVec 32 := msg.address.low
def retransTimer (msg : ICMPv6NDMessage) : BitVec 32 := msg.address.normal

def setReachableTime (msg : ICMPv6NDMessage) (reachTime : BitVec 32) : ICMPv6NDMessage :=
  { msg with address := { msg.address with low := reachTime } }

def setRetransTimer (msg : ICMPv6NDMessage) (retrans : BitVec 32) : ICMPv6NDMessage :=
  { msg with address := { msg.address with normal := retrans } }

def setPrefixInfo (msg : ICMPv6NDMessage) (pref : OptPrefix) (i : Nat) : Exec ICMPv6NDMessage :=
  if i < msg.prefixes.length then .ok { msg with prefixes := msg.prefixes.set i pref }
  else .error .outOfBounds

def setPrefixesInfo (msg : ICMPv6NDMessage) (pe : List PrefixEntry) : ICMPv6NDMessage :=
  { msg with prefixes := pe.map .ofEntry }

def setMTU (msg : ICMPv6NDMessage) (mtu memory : BitVec 32) : Exec ICMPv6NDMessage :=
  let changeLength := msg.opt1.isNone
  let msg := { msg with opt1 := some (.create mtu memory) }
  if changeLength then msg.setLength (msg.length + 1 * extUnitOctets * 8) else .ok msg

def mtu (msg : ICMPv6NDMessage) : BitVec 32 := (msg.opt1.map (·.mtu)).getD 0

def setAdvInterval (msg : ICMPv6NDMessage) (advInt : BitVec 32) : Exec ICMPv6NDMessage :=
  let changeLength := msg.opt2.isNone
  let msg := { msg with opt2 := some ⟨advInt.setWidth 64⟩ }
  if changeLength then msg.setLength (msg.length + 1 * extUnitOctets * 8) else .ok msg

def advInterval (msg : ICMPv6NDMessage) : BitVec 32 := (msg.opt2.map (·.advInterval.setWidth 32)).getD 0

def addOption (msg : ICMPv6NDMessage) (mapOpt : HMIPv6ICMPv6NDOptMAP) : ICMPv6NDMessage :=
  { msg with mapOpts := msg.mapOpts ++ [mapOpt] }

def setOptions (msg : ICMPv6NDMessage) (opts : List HMIPv6ICMPv6NDOptMAP) : ICMPv6NDMessage :=
  { msg with mapOpts := opts }

structure Args where
  lifetime : BitVec 32
  hopLimit : BitVec 32
  reach : BitVec 32
  retrans : BitVec 32
  prefixList : Option (List PrefixEntry)
  managed : Bool
  other : Bool

/-- The two constructors, with a list of prefixes or without -/
def create (args : Args) : Exec ICMPv6NDMessage :=
  let msg := setCurHopLimit ICMPv6NDMessage.create args.hopLimit
  let msg := setManaged msg args.managed
  let msg := setOther msg args.other
  let msg := setRouterLifetime msg args.lifetime
  let msg := setReachableTime msg args.reach
  let msg := setRetransTimer msg args.retrans
  match args.prefixList with
  | none => .ok msg
  | some prefixList =>
      let msg := setPrefixesInfo msg prefixList
      msg.setLength (msg.length + (msg.prefixes.map fun _ => OptPrefix.lengthInUnits * extUnitOctets * 8).sum)

end ICMPv6NDMRtrAd

namespace ICMPv6NDMNgbrSol

def setTargetAddr (msg : ICMPv6NDMessage) (target : Ipv6Addr) : ICMPv6NDMessage := { msg with address := target }

def create (targetAddr : Ipv6Addr) (srcLLAddr : String) : Exec ICMPv6NDMessage :=
  let msg := setTargetAddr ICMPv6NDMessage.create targetAddr
  if srcLLAddr ≠ "" then msg.setLLAddress true srcLLAddr 1 else .ok msg

end ICMPv6NDMNgbrSol

namespace ICMPv6NDMNgbrAd

def setTargetAddr (msg : ICMPv6NDMessage) (target : Ipv6Addr) : ICMPv6NDMessage := { msg with address := target }

def isRouter (msg : ICMPv6NDMessage) : Bool := msg.flag isRouterMask
def setIsRouter (msg : ICMPv6NDMessage) (isRouter : Bool) : ICMPv6NDMessage := msg.setFlag isRouterMask isRouter

def solicited (msg : ICMPv6NDMessage) : Bool := msg.flag solicitedMask
def setSolicited (msg : ICMPv6NDMessage) (solicited : Bool) : ICMPv6NDMessage :=
  msg.setFlag solicitedMask solicited

def override (msg : ICMPv6NDMessage) : Bool := msg.flag overrideMask
def setOverride (msg : ICMPv6NDMessage) (override : Bool) : ICMPv6NDMessage := msg.setFlag overrideMask override

def setFlags (msg : ICMPv6NDMessage) (isRouter solicited override : Bool) : ICMPv6NDMessage :=
  setOverride (setSolicited (setIsRouter msg isRouter) solicited) override

/-- The address is set even if it is empty. -/
def create (targetAddr : Ipv6Addr) (addr : String) (isRouter solicited override : Bool) :
    Exec ICMPv6NDMessage :=
  let msg := setTargetAddr ICMPv6NDMessage.create targetAddr
  let msg := setFlags msg isRouter solicited override
  msg.setLLAddress false addr 1

end ICMPv6NDMNgbrAd

end IPv6Suite
