import IPv6Suite.IPv6InterfaceData
import IPv6Suite.Lib.Machine

namespace IPv6Suite

open Lib

/-- A scheduled `cTimerMessage`; times are whole seconds. -/
structure CTimerMessage where
  sendingTime : Nat
  arrivalTime : Nat
deriving DecidableEq

namespace CTimerMessage

def remainingTime (tmr : CTimerMessage) (now : Nat) : Exec Nat :=
  if tmr.sendingTime ≤ 0 then .ok 0
  else do
    Exec.assert (now ≤ tmr.arrivalTime)
    return tmr.arrivalTime - now

def elapsedTime (tmr : CTimerMessage) (now : Nat) : Exec Nat :=
  if tmr.sendingTime ≤ 0 then .ok 0
  else do
    Exec.assert (tmr.sendingTime ≤ now)
    return now - tmr.sendingTime

end CTimerMessage

/-- The part of `RoutingTable6` that expires addresses, and the clock. -/
structure AddrConf where
  interfaces : List IPv6InterfaceData
  addrExpiryTmr : Option CTimerMessage
  now : Nat
deriving DecidableEq

/-- A lifetime from a prefix option, never 0: `processRtrAd` skips those options. An
`index` past the end stands for an address that is not stored, such as the copy that
`matchPrefix` returns. -/
structure LifetimeUpdate where
  ifIndex : Nat
  index : Nat
  validLifetime : BitVec 32
  preferredLifetime : BitVec 32
  nonzero : validLifetime ≠ 0

namespace AddrConf

def elapseLifetimes (s : AddrConf) (seconds : BitVec 32) : AddrConf :=
  { s with interfaces := s.interfaces.map (·.elapseLifetimes seconds) }

def invalidateAddresses (s : AddrConf) : Exec AddrConf := do
  let interfaces ← s.interfaces.mapM IPv6InterfaceData.invalidateAddresses
  return { s with interfaces }

def minValidLifetime (s : AddrConf) : Exec (BitVec 32) := do
  let minLifetime ← s.interfaces.foldlM
    (fun minLifetime data => do
      let lifetime ← data.minValidLifetime
      Exec.assert (lifetime ≠ 0)
      return if lifetime < minLifetime then lifetime else minLifetime)
    validLifetimeInfinity
  Exec.assert (minLifetime ≠ 0)
  return minLifetime

/-- `addrExpiryTmr->reschedule(simTime() + lifetime)` -/
def reschedule (s : AddrConf) (lifetime : BitVec 32) : AddrConf :=
  { s with addrExpiryTmr := some ⟨s.now, s.now + lifetime.toNat⟩ }

/-- The callback of the timer. -/
def lifetimeExpired (s : AddrConf) : Exec AddrConf := do
  let tmr ← Exec.deref .nullDeref s.addrExpiryTmr
  let elapsed ← tmr.elapsedTime s.now
  let s ← (s.elapseLifetimes (BitVec.ofNat 32 elapsed)).invalidateAddresses
  let minStoredLifetime ← s.minValidLifetime
  Exec.assert (0 < minStoredLifetime)
  return s.reschedule minStoredLifetime

def rescheduleAddrConfTimer (minUpdatedLifetime : BitVec 32) (s : AddrConf) : Exec AddrConf :=
  match s.addrExpiryTmr with
  | none => do
      let minUpdatedLifetime ← s.minValidLifetime
      if minUpdatedLifetime = validLifetimeInfinity then return s
      else return s.reschedule minUpdatedLifetime
  | some tmr => do
      let remaining ← tmr.remainingTime s.now
      if minUpdatedLifetime.toNat < remaining then
        let elapsed ← tmr.elapsedTime s.now
        return (s.elapseLifetimes (BitVec.ofNat 32 elapsed)).reschedule minUpdatedLifetime
      else
        let minValid ← s.minValidLifetime
        if remaining < minValid.toNat then return s.reschedule minValid
        else return s

/-- `assignAddress` up to the call of `rescheduleAddrConfTimer`. -/
def pushAddress (addr : InterfaceAddress) (ifIndex : Nat) (reallocates : Bool) (s : AddrConf) :
    Exec AddrConf := do
  let data ← Exec.deref .assertFailed s.interfaces[ifIndex]?
  Exec.assert (data.addrAssigned addr.addr = false)
  let data ← (if data.tentativeAddrAssigned addr.addr then
      data.removeTentativeAddress addr.toIPv6Address
    else .ok data)
  Exec.assert (addr.storedLifetime ≠ 0)
  return { s with interfaces := s.interfaces.set ifIndex (data.pushBack addr reallocates) }

def assignAddress (addr : InterfaceAddress) (ifIndex : Nat) (reallocates : Bool) (s : AddrConf) :
    Exec AddrConf := do
  let s ← s.pushAddress addr ifIndex reallocates
  if 0 < addr.storedLifetime ∧ addr.storedLifetime < validLifetimeInfinity then
    s.rescheduleAddrConfTimer addr.storedLifetime
  else return s

/-- The lifetimes of one update, stored in the address at its index. -/
def update (u : LifetimeUpdate) (s : AddrConf) : AddrConf :=
  { s with
    interfaces := s.interfaces.modify u.ifIndex fun data =>
      { data with
        inetAddrs := data.inetAddrs.modify u.index fun a =>
          (a.setPreferredLifetime u.preferredLifetime).setStoredLifetimeAndUpdate
            u.validLifetime } }

/-- `minStoredLifetime` after the loop over the options, 0 without any. -/
def minStoredLifetime (updates : List LifetimeUpdate) : BitVec 32 :=
  updates.foldl
    (fun minStored u =>
      if minStored = 0 then u.validLifetime
      else if u.validLifetime < minStored then u.validLifetime else minStored)
    0

/-- The lifetimes of one advertisement, and the call that ends the loop. -/
def updateLifetimes (updates : List LifetimeUpdate) (s : AddrConf) : Exec AddrConf :=
  let s := updates.foldl (fun s u => s.update u) s
  let minStored := minStoredLifetime updates
  if 0 < minStored ∧ minStored < validLifetimeInfinity then s.rescheduleAddrConfTimer minStored
  else .ok s

end AddrConf

/-- Whether `push_back` reallocates is not determined by the source. -/
inductive AddrConfEvent where
  | assignAddress (addr : InterfaceAddress) (ifIndex : Nat) (reallocates : Bool)
  | updateLifetimes (updates : List LifetimeUpdate)
  | timeout
  | advance (t : Nat)

namespace AddrConfEvent

def step (s : AddrConf) : AddrConfEvent → Exec AddrConf
  | assignAddress addr ifIndex reallocates => s.assignAddress addr ifIndex reallocates
  | updateLifetimes updates => s.updateLifetimes updates
  | timeout => s.lifetimeExpired
  | advance t => .ok { s with now := t }

/-- The order of a simulation: the clock stops where the timer arrives. -/
def Possible (s : AddrConf) : AddrConfEvent → Prop
  | assignAddress _ _ _ => True
  | updateLifetimes _ => True
  | timeout => ∃ tmr, s.addrExpiryTmr = some tmr ∧ tmr.arrivalTime = s.now
  | advance t => s.now ≤ t ∧ ∀ tmr, s.addrExpiryTmr = some tmr → t ≤ tmr.arrivalTime

end AddrConfEvent

end IPv6Suite
