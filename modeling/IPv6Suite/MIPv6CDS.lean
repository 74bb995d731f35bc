import IPv6Suite.MobilityHeaders
import Mathlib.Data.BitVec

namespace IPv6Suite

open Lib

structure BcEntry where
  homeAddr : Ipv6Addr
  careOfAddr : Ipv6Addr
  expires : Nat
  seqNo : BitVec 32
  isHomeReg : Bool
deriving DecidableEq

def BcEntry.setSeqNo (bce : BcEntry) (seq : BitVec 32) : BcEntry :=
  { bce with seqNo := if seq > 2 ^ 16 - 1 then seq % 2 ^ 16 else seq }

abbrev BindingCache := StdMap Ipv6Addr BcEntry Ipv6Addr.lt

namespace BindingCache

def findBinding (bc : BindingCache) (homeAddr : Ipv6Addr) : Option BcEntry := bc[homeAddr]?

def findBindingByCoA (bc : BindingCache) (careofAddr : Ipv6Addr) : Option BcEntry :=
  (bc.toList.find? fun entry => entry.2.careOfAddr = careofAddr).map (·.2)

def insertBinding (bc : BindingCache) (entry : BcEntry) : BindingCache :=
  bc.insert entry.homeAddr entry

def removeBinding (bc : BindingCache) (homeAddr : Ipv6Addr) : Bool × BindingCache :=
  match bc.findBinding homeAddr with
  | some _ => (true, bc.erase homeAddr)
  | none => (false, bc)

/-- One tick of `interval` seconds -/
def expireLifetimes (bc : BindingCache) (interval : Nat) : BindingCache :=
  bc.filterMap fun _ bce =>
    if bce.expires > interval then some { bce with expires := bce.expires - interval } else none

variable {bc : BindingCache} {home other : Ipv6Addr} {bce : BcEntry}

theorem findBinding_insert : findBinding (bc.insert home bce) other =
    if home = other then some bce else bc.findBinding other := by
  unfold findBinding
  split
  · rename_i same
    rw [← same, StdMap.getElem?_insert_self]
  · rename_i apart
    rw [StdMap.getElem?_insert_ne apart]

theorem findBinding_erase_self : findBinding (bc.erase home) home = none := by
  unfold findBinding
  exact Std.TreeMap.getElem?_erase_self

theorem findBinding_erase_ne (apart : home ≠ other) : findBinding (bc.erase home) other = bc.findBinding other :=
  StdMap.getElem?_erase_ne apart

end BindingCache

end IPv6Suite
