import IPv6Suite.IPv6CDS
import IPv6Suite.ExpiryEntryList

namespace IPv6Suite

open Lib

/-- The part of `RoutingTable6` that router and prefix discovery work on: `rel` and
`pel` hold the raw pointers of the entries that expire. -/
structure RoutingTable6 where
  cds : IPv6CDS
  rel : ExpiryEntryList Ptr
  pel : ExpiryEntryList Ptr
  mipv6Support : Bool
  numInterfaceGates : Nat

namespace RoutingTable6

/-- After `initialize`: empty caches and two lists in relative mode. -/
def create (mipv6Support : Bool) (numInterfaceGates : Nat) : RoutingTable6 where
  cds := IPv6CDS.empty
  rel := ExpiryEntryList.create true
  pel := ExpiryEntryList.create true
  mipv6Support
  numInterfaceGates

/-- `expiryTime()` through a pointer of `rel`. -/
def routerExpiry (rt : RoutingTable6) (p : Ptr) : SimTime :=
  ((rt.cds.routerAt p).map (·.expiryTime)).getD 0

def prefixExpiry (rt : RoutingTable6) (p : Ptr) : SimTime :=
  ((rt.cds.prefixAt p).map (·.expiryTime)).getD 0

/-- Reading an entry that was freed is a fault. -/
def checkLive (live : Ptr → Bool) (ptrs : List Ptr) : Exec Unit :=
  if ptrs.all live then .ok () else .error .useAfterFree

def routerLive (rt : RoutingTable6) (p : Ptr) : Bool := (rt.cds.routerAt p).isSome

def prefixLive (rt : RoutingTable6) (p : Ptr) : Bool := (rt.cds.prefixAt p).isSome

variable (heap : StdHeap SimTime) (now : SimTime)

def relAddOrUpdate (rt : RoutingTable6) (p : Ptr) : Exec RoutingTable6 := do
  checkLive rt.routerLive (p :: rt.rel.entries)
  return { rt with rel := rt.rel.addOrUpdate heap rt.routerExpiry now p }

def pelAddOrUpdate (rt : RoutingTable6) (p : Ptr) : Exec RoutingTable6 := do
  checkLive rt.prefixLive (p :: rt.pel.entries)
  return { rt with pel := rt.pel.addOrUpdate heap rt.prefixExpiry now p }

/-- `rel->remove(re)`: an absent pointer is not looked through. -/
def relRemove (rt : RoutingTable6) (p : Ptr) : Exec RoutingTable6 :=
  if p ∈ rt.rel.entries then do
    checkLive rt.routerLive rt.rel.entries
    return { rt with rel := rt.rel.remove heap rt.routerExpiry now p }
  else .ok rt

def pelRemove (rt : RoutingTable6) (p : Ptr) : Exec RoutingTable6 :=
  if p ∈ rt.pel.entries then do
    checkLive rt.prefixLive rt.pel.entries
    return { rt with pel := rt.pel.remove heap rt.prefixExpiry now p }
  else .ok rt

/-- The pointer is the new router's. -/
def insertRouterEntry (rt : RoutingTable6) (re : RouterEntry) (setDefault : Bool) :
    Exec (Ptr × RoutingTable6) := do
  let (p, cds) ← rt.cds.insertRouterEntry re setDefault
  let rt := { rt with cds }
  if re.invalidTime ≠ validLifetimeInfinity then
    let rt ← rt.relAddOrUpdate heap now p
    return (p, rt)
  else return (p, rt)

def removeRouterEntry (rt : RoutingTable6) (p : Ptr) : Exec RoutingTable6 := do
  let re ← Exec.deref .useAfterFree (rt.cds.routerAt p)
  let rt ← (if re.invalidTime ≠ validLifetimeInfinity then rt.relRemove heap now p else .ok rt)
  return { rt with cds := rt.cds.removeRouterEntry re.unicastAddr }

def routerTimeout (rt : RoutingTable6) (p : Ptr) : Exec RoutingTable6 := do
  let re ← Exec.deref .useAfterFree (rt.cds.routerAt p)
  return { rt with cds := rt.cds.removeRouterEntry re.unicastAddr }

def insertPrefixEntry (rt : RoutingTable6) (pe : PrefixEntry) (ifIndex : Nat) :
    Exec RoutingTable6 := do
  let (p, cds) := rt.cds.insertPrefixEntry pe ifIndex
  let rt := { rt with cds }
  if pe.advValidLifetime ≠ validLifetimeInfinity then rt.pelAddOrUpdate heap now p
  else return rt

def removePrefixEntry (rt : RoutingTable6) (p : Ptr) : Exec RoutingTable6 := do
  let pe ← Exec.deref .useAfterFree (rt.cds.prefixAt p)
  let rt ← (if pe.advValidLifetime ≠ validLifetimeInfinity then rt.pelRemove heap now p else .ok rt)
  let cds ← rt.cds.removePrefixEntry pe
  return { rt with cds }

def prefixTimeout (rt : RoutingTable6) (p : Ptr) : Exec RoutingTable6 := do
  let pe ← Exec.deref .useAfterFree (rt.cds.prefixAt p)
  let cds ← rt.cds.removePrefixEntry pe
  return { rt with cds }

/-- `rel->removeExpiredEntry()`: the callback frees the router before `pop_back`, then
the new front is read. -/
def routerTimer (rt : RoutingTable6) : Exec RoutingTable6 := do
  let rel := rt.rel.popExpired heap rt.routerExpiry now
  match rt.rel.expired heap rt.routerExpiry with
  | none => return { rt with rel }
  | some p => do
      checkLive rt.routerLive rt.rel.entries
      let rt ← rt.routerTimeout p
      checkLive rt.routerLive (rel.entries.take 1)
      return { rt with rel }

def prefixTimer (rt : RoutingTable6) : Exec RoutingTable6 := do
  let pel := rt.pel.popExpired heap rt.prefixExpiry now
  match rt.pel.expired heap rt.prefixExpiry with
  | none => return { rt with pel }
  | some p => do
      checkLive rt.prefixLive rt.pel.entries
      let rt ← rt.prefixTimeout p
      checkLive rt.prefixLive (pel.entries.take 1)
      return { rt with pel }

theorem checkLive_eq_ok {live : Ptr → Bool} {ptrs : List Ptr} {u : Unit} :
    checkLive live ptrs = .ok u ↔ ∀ p ∈ ptrs, live p = true := by
  unfold checkLive
  rw [← List.all_eq_true]
  split <;> simp_all

end RoutingTable6

end IPv6Suite
