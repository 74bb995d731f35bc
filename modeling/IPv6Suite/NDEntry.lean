import IPv6Suite.IPv6Address
import Mathlib.Data.Rat.Defs

namespace IPv6Suite

/-- `simtime_t`, with exact arithmetic. -/
abbrev SimTime := ℚ

/-- The identity of a heap object. -/
abbrev Ptr := Nat

def validLifetimeInfinity : BitVec 32 := 0xffffffff

inductive ReachabilityState where
  | incomplete
  | reachable
  | stale
  | delay
  | probe
deriving DecidableEq

structure NeighbourEntry where
  unicastAddr : Ipv6Addr
  llAddress : String
  interfaceNo : Nat
  isRouter : Bool
  state : ReachabilityState
deriving DecidableEq

structure RouterEntry extends NeighbourEntry where
  lastRAReceived : SimTime
  invalidTime : BitVec 32
deriving DecidableEq

structure DestinationEntry where
  neighbour : Option Ptr := none
  pathMTU : Nat := 0
deriving DecidableEq

structure PrefixEntry where
  prefixAddr : IPv6Address
  advValidLifetime : BitVec 32
  realtime : Bool
  advOnLink : Bool
  advPrefLifetime : BitVec 32
  advAutoFlag : Bool
  advRtrAddr : Bool
deriving DecidableEq

structure OptPrefix where
  prefixLen : BitVec 8
  onLink : Bool
  autoConf : Bool
  validLifetime : BitVec 32
  preferredLifetime : BitVec 32
  prefixAddr : Ipv6Addr
  rtrAddr : Bool
deriving DecidableEq

/-- The members of `ICMPv6NDMRtrAd` and of its datagram that `processRtrAd` reads
for the router list and the prefix list. -/
structure RtrAd where
  srcAddress : Ipv6Addr
  inputPort : Nat
  routerLifetime : BitVec 16
  srcLLAddr : Option String
  prefixes : List OptPrefix
deriving DecidableEq

namespace RouterEntry

/-- `RouterEntry(addr, ifaceNo, linkAddr, lifetime)`: always created stale. -/
def create (addr : Ipv6Addr) (ifaceNo : Nat) (linkAddr : Option String) (lifetime : BitVec 32) :
    RouterEntry where
  unicastAddr := addr
  llAddress := linkAddr.getD ""
  interfaceNo := ifaceNo
  isRouter := true
  state := .stale
  lastRAReceived := 0
  invalidTime := lifetime

def expiryTime (re : RouterEntry) : SimTime := re.invalidTime.toNat

end RouterEntry

namespace PrefixEntry

def ofOpt (prefOpt : OptPrefix) : PrefixEntry where
  prefixAddr := IPv6Address.ofAddr prefOpt.prefixAddr prefOpt.prefixLen.toNat
  advValidLifetime := prefOpt.validLifetime
  realtime := false
  advOnLink := prefOpt.onLink
  advPrefLifetime := prefOpt.preferredLifetime
  advAutoFlag := prefOpt.autoConf
  advRtrAddr := prefOpt.rtrAddr

def expiryTime (pe : PrefixEntry) : SimTime := pe.advValidLifetime.toNat

end PrefixEntry

theorem lifetime_lt_infinity {lifetime : BitVec 32} :
    lifetime < validLifetimeInfinity ↔ lifetime ≠ validLifetimeInfinity := by
  have bound := lifetime.isLt
  simp only [BitVec.lt_def, ne_eq, ← BitVec.toNat_inj, validLifetimeInfinity, BitVec.reduceToNat]
  omega

end IPv6Suite
