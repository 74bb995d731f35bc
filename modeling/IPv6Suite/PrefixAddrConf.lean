import IPv6Suite.AddrConfTimer
import IPv6Suite.DupAddrDet
import IPv6Suite.NDStateHost

namespace IPv6Suite

open Lib

def addrConfTime : BitVec 32 := 7200

namespace IPv6InterfaceData

/-- The search of `matchPrefix`: the bits compared are the ones of the assigned address. -/
def findNetwork (toCmp : Ipv6Addr) : List InterfaceAddress → Exec (Option InterfaceAddress)
  | [] => .ok none
  | a :: rest => do
      Exec.assert (a.prefixLength ≤ 128)
      if a.isNetwork toCmp then return some a else findNetwork toCmp rest

/-- `matchPrefix` returns an address by value. -/
def matchPrefix (data : IPv6InterfaceData) (toCmp : Ipv6Addr) (tentative : Bool) : Exec InterfaceAddress := do
  match ← findNetwork toCmp data.inetAddrs with
  | some a => return a.copy
  | none =>
      let found ← (if tentative then findNetwork toCmp data.tentativeAddrs else .ok none)
      return (found.map (·.copy)).getD (InterfaceAddress.host .unspecified)

end IPv6InterfaceData

/-- The interface of an advertisement. `reallocates` says for which address `push_back` has to. -/
structure AutoConf where
  ifIndex : Nat
  interfaceToken : InterfaceToken
  dupAddrDetectTrans : Int
  reallocates : Ipv6Addr → Bool

/-- The address timer's part of the state in the loop over the options, with `minStoredLifetime` -/
structure AutoConfState where
  conf : AddrConf
  minStoredLifetime : BitVec 32

namespace AutoConf

variable (nd : AutoConf)

/-- `detectDupAddress`: without duplicate address detection the address is assigned at once. -/
def detectDupAddress (tentativeAddr : InterfaceAddress) (s : AddrConf) : Exec AddrConf :=
  let s := { s with
    interfaces := s.interfaces.modify nd.ifIndex fun data =>
      { data with tentativeAddrs := data.tentativeAddrs ++ [tentativeAddr.copy] } }
  if nd.dupAddrDetectTrans < 1 then
    s.assignAddress tentativeAddr nd.ifIndex (nd.reallocates tentativeAddr.addr)
  else .ok s

/-- Whether the prefix fits the interface, and the state after it was taken up. -/
def prefixAddrConf (opt : OptPrefix) (data : IPv6InterfaceData) (s : AddrConf) : Exec (Bool × AddrConf) := do
  Exec.assert (opt.validLifetime ≠ 0)
  if opt.prefixLen.toNat + nd.interfaceToken.length = 128 then
    if data.inetAddrs.isEmpty then return (false, s)
    else do
      let newAddr ← nd.interfaceToken.toAddr opt.prefixAddr
      let addrObj : InterfaceAddress :=
        ⟨⟨newAddr, opt.prefixLen.toNat⟩, opt.validLifetime, opt.preferredLifetime, true⟩
      if data.tentativeAddrAssigned newAddr then return (true, s)
      else do
        let s ← nd.detectDupAddress addrObj s
        return (true, s)
  else return (false, s)

end AutoConf

/-- The options that address configuration considers -/
def OptPrefix.considered (opt : OptPrefix) : Bool :=
  opt.autoConf && !NDStateHost.linkLocalPrefix.isNetwork opt.prefixAddr && opt.validLifetime ≠ 0 &&
    opt.preferredLifetime ≤ opt.validLifetime

/-- The lifetimes for an address that an option matches, none if they stay. -/
def OptPrefix.renew (opt : OptPrefix) (addr : InterfaceAddress) : Option InterfaceAddress :=
  if addrConfTime < opt.validLifetime ∨ addr.storedLifetime < opt.validLifetime then
    some ((addr.setPreferredLifetime opt.preferredLifetime).setStoredLifetimeAndUpdate opt.validLifetime)
  else if addr.storedLifetime ≤ addrConfTime ∧ opt.validLifetime ≤ addr.storedLifetime then none
  else some (addr.setStoredLifetimeAndUpdate addrConfTime)

namespace AutoConfState

def shorten (st : AutoConfState) (lifetime : BitVec 32) : AutoConfState :=
  { st with
    minStoredLifetime :=
      if st.minStoredLifetime = 0 then lifetime
      else if lifetime < st.minStoredLifetime then lifetime else st.minStoredLifetime }

end AutoConfState

namespace AutoConf

variable (nd : AutoConf)

/-- One round of the loop, for address configuration. What `renew` gives is the copy that `matchPrefix` returned, of
which only the lifetime is used. -/
def processOption (st : AutoConfState) (opt : OptPrefix) : Exec AutoConfState :=
  if opt.considered then do
    let data ← Exec.deref .nullDeref st.conf.interfaces[nd.ifIndex]?
    let addr ← data.matchPrefix opt.prefixAddr true
    if addr.addr = .unspecified then do
      let (taken, conf) ← nd.prefixAddrConf opt data st.conf
      let st := { st with conf }
      if taken then return st.shorten opt.validLifetime else return st
    else if data.tentativeAddrAssigned addr.addr then return st
    else
      match opt.renew addr with
      | none => return st
      | some addr => return st.shorten addr.storedLifetime
  else .ok st

def processOptions (opts : List OptPrefix) (st : AutoConfState) : Exec AutoConfState :=
  opts.foldlM nd.processOption st

/-- The call after the loop -/
def finish (st : AutoConfState) : Exec AddrConf :=
  if 0 < st.minStoredLifetime ∧ st.minStoredLifetime < validLifetimeInfinity then
    st.conf.rescheduleAddrConfTimer st.minStoredLifetime
  else .ok st.conf

/-- `processRtrAd`, for the addresses of the interface. `withdrawn`: a known router advertises lifetime 0, and the
function returns before the options. -/
def processRtrAd (withdrawn : Bool) (opts : List OptPrefix) (s : AddrConf) : Exec AddrConf := do
  Exec.assert (nd.ifIndex < s.interfaces.length)
  if withdrawn then return s
  else do
    let st ← nd.processOptions opts ⟨s, 0⟩
    finish st

end AutoConf

end IPv6Suite
