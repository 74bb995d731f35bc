import IPv6Suite.Lib.Machine
import IPv6Suite.RoutingTable6

namespace IPv6Suite

open Lib

namespace NDStateHost

variable (heap : StdHeap SimTime) (now : SimTime)

/-- `IPv6Address(LINK_LOCAL_PREFIX)` -/
def linkLocalPrefix : IPv6Address := ⟨.linkLocalPrefix, 64⟩

/-- The update of a known router's link layer address and state. -/
def refreshLinkLayer (mobility : Bool) (srcLLAddr : Option String) (re : RouterEntry) :
    RouterEntry :=
  match srcLLAddr with
  | none => re
  | some addr =>
      if addr ≠ re.llAddress then { re with llAddress := addr, state := .stale }
      else if mobility ∧ re.state = .incomplete then { re with state := .reachable }
      else re

/-- With mobility support the destination entry of a known router is recreated when
it was lost or leads to another neighbour. -/
def restoreDestEntry (cds : IPv6CDS) (addr : Ipv6Addr) : Exec IPv6CDS := do
  let entry : DestinationEntry := { neighbour := (cds.router addr).map (·.1) }
  let cds := if (cds.lock (cds.neighbour addr)).isNone then cds.setDestEntry addr entry else cds
  let ngbr ← Exec.deref .nullDeref (cds.lock (cds.neighbour addr))
  return if ngbr.unicastAddr ≠ addr then cds.setDestEntry addr entry else cds

/-- The branch for a router in the list and a lifetime other than 0. -/
def refreshRouter (rt : RoutingTable6) (ra : RtrAd) (p : Ptr) : Exec RoutingTable6 := do
  let rt := { rt with
    cds := rt.cds.modifyRouter p ({ · with invalidTime := ra.routerLifetime.setWidth 32 }) }
  let rt ← rt.relAddOrUpdate heap now p
  let cds := rt.cds.modifyRouter p (refreshLinkLayer rt.mipv6Support ra.srcLLAddr)
  let cds ← (if rt.mipv6Support then restoreDestEntry cds ra.srcAddress else .ok cds)
  return { rt with cds := cds.modifyRouter p ({ · with lastRAReceived := now }) }

/-- Insert, refresh or remove the router of an advertisement, and whether the
function goes on: it returns early after a removal. -/
def processRouter (rt : RoutingTable6) (ra : RtrAd) : Exec (RoutingTable6 × Bool) :=
  match rt.cds.router ra.srcAddress with
  | none =>
      if ra.routerLifetime ≠ 0 then do
        let re := RouterEntry.create ra.srcAddress ra.inputPort ra.srcLLAddr
          (ra.routerLifetime.setWidth 32)
        let (p, rt) ← rt.insertRouterEntry heap now re false
        return ({ rt with cds := rt.cds.modifyRouter p ({ · with lastRAReceived := now }) }, true)
      else return (rt, true)
  | some (p, _) =>
      if ra.routerLifetime ≠ 0 then do
        let rt ← refreshRouter heap now rt ra p
        return (rt, true)
      else return ({ rt with cds := rt.cds.removeRouterEntry ra.srcAddress }, false)

/-- `(*rt->cds)[addr]` creates the destination entry it does not find. -/
def touchDestEntry (cds : IPv6CDS) (addr : Ipv6Addr) : IPv6CDS :=
  match cds.findDestEntry addr with
  | some _ => cds
  | none => cds.setDestEntry addr {}

/-- With mobility support a destination entry without neighbour gets the router back. -/
def reinstateNeighbour (mobility : Bool) (cds : IPv6CDS) (addr : Ipv6Addr) : Exec IPv6CDS :=
  let de := (cds.findDestEntry addr).getD {}
  if mobility ∧ (cds.lock de.neighbour).isNone then do
    Exec.assert ((cds.router addr).isSome = true)
    return cds.setDestEntry addr { de with neighbour := (cds.router addr).map (·.1) }
  else .ok cds

/-- The check that the neighbour of a link layer option is a router. -/
def checkIsRouter (cds : IPv6CDS) (addr : Ipv6Addr) : Exec IPv6CDS := do
  let p ← Exec.deref .nullDeref (cds.neighbour addr)
  let ngbr ← Exec.deref .nullDeref (cds.deref p)
  return if ngbr.isRouter then cds else cds.modify p ({ · with isRouter := true })

def processLinkLayer (rt : RoutingTable6) (ra : RtrAd) : Exec RoutingTable6 := do
  let cds := touchDestEntry rt.cds ra.srcAddress
  if ra.srcLLAddr.isNone then return { rt with cds }
  else do
    let cds ← reinstateNeighbour rt.mipv6Support cds ra.srcAddress
    let cds ← checkIsRouter cds ra.srcAddress
    return { rt with cds }

/-- The search of the interface's prefixes reads each entry up to the match. -/
def findPrefix (cds : IPv6CDS) (addr : Ipv6Addr) : List Ptr → Exec (Option Ptr)
  | [] => .ok none
  | p :: rest =>
      match cds.prefixAt p with
      | none => .error .useAfterFree
      | some pe => if pe.prefixAddr.addr = addr then .ok (some p) else findPrefix cds addr rest

def forPrefixList (opt : OptPrefix) : Bool :=
  opt.onLink && ¬ linkLocalPrefix.isNetwork opt.prefixAddr

def processPrefix (ifIndex : Nat) (prefixes : List Ptr) (rt : RoutingTable6) (opt : OptPrefix) :
    Exec RoutingTable6 :=
  if forPrefixList opt then do
    match ← findPrefix rt.cds opt.prefixAddr prefixes with
    | some p =>
        if opt.validLifetime ≠ 0 then do
          let rt := { rt with cds := rt.cds.setAdvValidLifetime p opt.validLifetime }
          if opt.validLifetime < validLifetimeInfinity then rt.pelAddOrUpdate heap now p
          else return rt
        else do
          -- the list is printed before the entry is removed
          RoutingTable6.checkLive rt.prefixLive rt.pel.entries
          rt.removePrefixEntry heap now p
    | none =>
        if opt.validLifetime ≠ 0 then
          rt.insertPrefixEntry heap now (PrefixEntry.ofOpt opt) ifIndex
        else return rt
  else return rt

/-- The loop over the options. `prefixes` is collected once, before the loop. -/
def processPrefixes (ifIndex : Nat) (prefixes : List Ptr) : RoutingTable6 → List OptPrefix →
    Exec RoutingTable6
  | rt, [] => .ok rt
  | rt, opt :: rest => do
      let rt ← processPrefix heap now ifIndex prefixes rt opt
      processPrefixes ifIndex prefixes rt rest

def processRtrAd (rt : RoutingTable6) (ra : RtrAd) : Exec RoutingTable6 := do
  Exec.assert (ra.inputPort < rt.numInterfaceGates)
  let (rt, continues) ← processRouter heap now rt ra
  if continues then do
    let rt ← processLinkLayer rt ra
    processPrefixes heap now ra.inputPort (rt.cds.getPrefixesByIndex ra.inputPort) rt ra.prefixes
  else return rt

end NDStateHost

/-- What reaches the routing table of a host: advertisements and its two timers. -/
inductive DiscoveryEvent where
  | rtrAd (now : SimTime) (ra : RtrAd)
  | routerTimer (now : SimTime)
  | prefixTimer (now : SimTime)

def DiscoveryEvent.step (heap : StdHeap SimTime) (rt : RoutingTable6) :
    DiscoveryEvent → Exec RoutingTable6
  | rtrAd now ra => NDStateHost.processRtrAd heap now rt ra
  | routerTimer now => rt.routerTimer heap now
  | prefixTimer now => rt.prefixTimer heap now

end IPv6Suite
