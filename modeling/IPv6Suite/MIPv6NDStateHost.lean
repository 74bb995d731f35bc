import IPv6Suite.NDStateHost

namespace IPv6Suite

open Lib

namespace IPv6CDS

def routerCount (cds : IPv6CDS) : Nat := cds.routers.length

/-- The router is moved to the front of the list. -/
def setDefaultRouter (cds : IPv6CDS) (re : Option Ptr) : Exec IPv6CDS := do
  let p ← Exec.deref .assertFailed re
  let re ← Exec.deref .assertFailed (cds.routerAt p)
  return { cds with routers := (p, re) :: cds.routers.filter (·.1 ≠ p) }

/-- `(*cds)[addr].neighbour = ngbr` -/
def setNextHop (cds : IPv6CDS) (addr : Ipv6Addr) (ngbr : Option Ptr) : IPv6CDS :=
  cds.setDestEntry addr { (cds.findDestEntry addr).getD {} with neighbour := ngbr }

/-- What led to the neighbour `addr` is made to lead to `ngbr`. -/
def updateDestEntryByNeighbour (cds : IPv6CDS) (addr ngbr : Ipv6Addr) : Exec IPv6CDS := do
  Exec.assert (addr ≠ ngbr)
  let ne := cds.neighbour ngbr
  Exec.assert ((cds.lock ne).isSome = true)
  return { cds with destCache := cds.destCache.map fun _ de =>
    if (cds.lock de.neighbour).any (·.unicastAddr = addr) then { de with neighbour := ne } else de }

end IPv6CDS

namespace MobileIPv6

/-- What must not happen to the routers of a mobile node: an entry is freed that is in the list, the missed
advertisement timer is used before it has been created, or one of two assertions fails. -/
inductive RouterViolation where
  | listedEntryFreed
  | noMissedTmr
  | handoverToCurrent
  | relinquishedToItself
deriving DecidableEq

inductive MoveFault where
  | violation (v : RouterViolation)
  | other (fault : Fault)
deriving DecidableEq

def MoveFault.fault : MoveFault → Fault
  | violation .listedEntryFreed => .useAfterFree
  | violation .noMissedTmr => .nullDeref
  | violation _ => .assertFailed
  | other fault => fault

abbrev MoveExec (α : Type) := Except MoveFault α

namespace MoveExec

def require (v : RouterViolation) (p : Prop) [Decidable p] : MoveExec Unit :=
  if p then .ok () else .error (.violation v)

def lift {α : Type} (r : Exec α) : MoveExec α := r.mapError .other

/-- `assert(p)`, other than the two -/
def assert (p : Prop) [Decidable p] : MoveExec Unit := lift (Exec.assert p)

end MoveExec

/-- `re` is a weak pointer. A prefix is kept as advertised, with its length. -/
structure MIPv6RouterEntry where
  re : Option Ptr
  isHomeAgent : Bool
  globalPrefix : IPv6Address
  lifetime : BitVec 32
  preference : BitVec 32
  prefixes : List IPv6Address
deriving DecidableEq

def MIPv6RouterEntry.addr (e : MIPv6RouterEntry) : Ipv6Addr := e.globalPrefix.addr

def MIPv6RouterEntry.addOnLinkPrefix (e : MIPv6RouterEntry) (pe : PrefixEntry) : MIPv6RouterEntry :=
  if pe.prefixAddr ∈ e.prefixes then e else { e with prefixes := e.prefixes ++ [pe.prefixAddr] }

/-- What the mobile node reads of an advertisement beside the host's part. `homeAgentInfo` has the preference and the
lifetime. -/
structure MIPv6RtrAd extends RtrAd where
  isHomeAgent : Bool
  homeAgentInfo : Option (BitVec 32 × BitVec 32)
  advInterval : BitVec 32
  hasMapOptions : Bool

/-- Scheduled at the time `arrival`, if at all -/
structure RtrAdvMissedTmr where
  consecCountMissed : Nat
  allowCount : Nat
  interval : SimTime
  arrival : Option SimTime
deriving DecidableEq

def RtrAdvMissedTmr.reset (tmr : RtrAdvMissedTmr) (now newInterval : SimTime) : RtrAdvMissedTmr :=
  { tmr with interval := newInterval, consecCountMissed := 0, arrival := some (now + newInterval) }

/-- What the addresses and the bindings of the node answer: the address formed of a prefix on an interface, whether the
registration with the home agent succeeds, and whether the addresses of an on-link prefix can be removed -/
structure Surroundings where
  formCareOfAddress : IPv6Address → Nat → Exec Ipv6Addr
  registers : Exec Unit
  releases : IPv6Address → Exec Unit
  initStarted : Bool

/-- The entries are objects, referred to by `mrl` and by three shared pointers. From `next` on nothing has been
allocated. -/
structure MIPv6NDStateHost where
  rt : RoutingTable6
  entries : Ptr → MIPv6RouterEntry
  next : Ptr
  mrl : List Ptr
  primaryHA : Option Ptr
  currentRouter : Option Ptr
  previousDefaultRouter : Option Ptr
  homeAddr : Ipv6Addr
  away : Bool
  moved : Bool
  awayCheckDone : Bool
  missedTmr : Option RtrAdvMissedTmr
  potentialNewInterval : SimTime
  ignoreInitiall2trigger : Bool
  eagerHandover : Bool
  hmipSupport : Bool
  maxConsecutiveMissedRtrAdv : Nat

namespace MIPv6NDStateHost

def modifyEntry (s : MIPv6NDStateHost) (p : Ptr) (f : MIPv6RouterEntry → MIPv6RouterEntry) : MIPv6NDStateHost :=
  { s with entries := Function.update s.entries p (f (s.entries p)) }

def withCds (s : MIPv6NDStateHost) (cds : IPv6CDS) : MIPv6NDStateHost := { s with rt := { s.rt with cds } }

/-- `re.lock()` of an entry, read through -/
def routerOf (s : MIPv6NDStateHost) (p : Ptr) : MoveExec (Ptr × RouterEntry) := do
  let q ← MoveExec.lift (Exec.deref .nullDeref (s.entries p).re)
  let re ← MoveExec.lift (Exec.deref .nullDeref (s.rt.cds.routerAt q))
  return (q, re)

/-! ### The mobile router list -/

/-- The first entry of the link local address, with those behind it. Each is read up to it. -/
def findRouterFrom (s : MIPv6NDStateHost) (llAddr : Ipv6Addr) : List Ptr → MoveExec (Option (Ptr × List Ptr))
  | [] => .ok none
  | p :: rest => do
      let (_, re) ← s.routerOf p
      if re.unicastAddr = llAddr then return some (p, rest)
      else s.findRouterFrom llAddr rest

def findRouter (s : MIPv6NDStateHost) (llAddr : Ipv6Addr) : MoveExec (Option Ptr) := do
  let found ← s.findRouterFrom llAddr s.mrl
  return found.map (·.1)

/-- The first entry of the same global address is removed. -/
def removeHomeAgent (s : MIPv6NDStateHost) (ha : Ptr) : MIPv6NDStateHost :=
  { s with mrl := s.mrl.eraseP fun p => (s.entries p).addr = (s.entries ha).addr }

def insertHomeAgent (s : MIPv6NDStateHost) (ha : Ptr) : MoveExec MIPv6NDStateHost := do
  let found ← s.findRouter (s.entries ha).addr
  MoveExec.assert (found = none)
  return { s with mrl := s.mrl ++ [ha] }

def deleteEntry (s : MIPv6NDStateHost) (ha : Ptr) : MoveExec Unit := MoveExec.require .listedEntryFreed (ha ∉ s.mrl)

/-! ### Handover -/

/-- The on-link prefixes that the loop visits, which erases one and then goes on behind the next, and those it leaves.
The list is a ring: behind its end comes its first element. -/
def everySecond {α : Type} : Nat → List α → List α → List α × List α
  | 0, skipped, rest => ([], skipped ++ rest)
  | _, skipped, [] => ([], skipped)
  | n + 1, skipped, [a] =>
      let (visited, left) := everySecond n [] skipped
      (a :: visited, left)
  | n + 1, skipped, a :: b :: rest =>
      let (visited, left) := everySecond n (skipped ++ [b]) rest
      (a :: visited, left)

/-- The addresses formed from a prefix are removed, and the prefix itself. -/
def removeOnLinkPrefix (heap : StdHeap SimTime) (now : SimTime) (env : Surroundings) (rt : RoutingTable6)
    (pref : IPv6Address) : Exec RoutingTable6 := do
  env.releases pref
  let ppe ← Exec.deref .assertFailed (rt.cds.getPrefixEntry pref)
  rt.removePrefixEntry heap now ppe.ptr

/-- The missed advertisement timer starts again with the new router's interval. -/
def restartMissedTmr (s : MIPv6NDStateHost) (now : SimTime) (newRtr : Option Ptr) : MIPv6NDStateHost :=
  let potentialNewInterval := if newRtr.isSome then s.potentialNewInterval else 0
  { s with
    potentialNewInterval
    missedTmr := s.missedTmr.map fun tmr =>
      { tmr with
        arrival := if potentialNewInterval ≠ 0 then some (now + potentialNewInterval) else none
        consecCountMissed := 0 } }

/-- What leads to the old router is made to lead to the new one, or removed. -/
def redirect (s : MIPv6NDStateHost) (oldAddr : Ipv6Addr) : Option Ptr → MoveExec MIPv6NDStateHost
  | some new => do
      let (_, re) ← s.routerOf new
      let cds ← MoveExec.lift (s.rt.cds.updateDestEntryByNeighbour oldAddr re.unicastAddr)
      return s.withCds cds
  | none => .ok (s.withCds (s.rt.cds.removeDestEntryByNeighbour oldAddr))

def relinquishOld (heap : StdHeap SimTime) (now : SimTime) (env : Surroundings) (s : MIPv6NDStateHost) (oldRtr : Ptr)
    (newRtr : Option Ptr) : MoveExec MIPv6NDStateHost := do
  let (q, re) ← s.routerOf oldRtr
  let cds := s.rt.cds.removeDestinationEntry re.unicastAddr
  let cds := cds.modifyRouter q fun re => { re with state := .incomplete }
  let (visited, left) := everySecond (s.entries oldRtr).prefixes.length [] (s.entries oldRtr).prefixes
  let rt ← MoveExec.lift (visited.foldlM (removeOnLinkPrefix heap now env) { s.rt with cds })
  let s := { s with rt }.modifyEntry oldRtr fun e => { e with prefixes := left }
  let s ← s.redirect re.unicastAddr newRtr
  return if s.primaryHA = none then s.removeHomeAgent oldRtr else s

/-- When there is no router to leave, the one before is left. -/
def redirectPrevious (s : MIPv6NDStateHost) : Option Ptr → Option Ptr → MoveExec MIPv6NDStateHost
  | some new, some prev =>
      if new ≠ prev then do
        let (_, re) ← s.routerOf prev
        s.redirect re.unicastAddr (some new)
      else .ok s
  | _, _ => .ok s

def setDefaultRouter (s : MIPv6NDStateHost) : Option Ptr → MoveExec MIPv6NDStateHost
  | some rtr => do
      let cds ← MoveExec.lift (s.rt.cds.setDefaultRouter (s.entries rtr).re)
      return s.withCds cds
  | none => .ok s

def relinquishRouter (heap : StdHeap SimTime) (now : SimTime) (env : Surroundings) (s : MIPv6NDStateHost)
    (oldRtr newRtr : Option Ptr) : MoveExec MIPv6NDStateHost := do
  let s ← s.setDefaultRouter newRtr
  let s := { s with currentRouter := newRtr }
  MoveExec.require .relinquishedToItself (newRtr ≠ oldRtr)
  let s := s.restartMissedTmr now newRtr
  match oldRtr with
  | some old => relinquishOld heap now env s old newRtr
  | none => s.redirectPrevious newRtr s.previousDefaultRouter

/-- The registration with the home agent, which leaves the routers alone. At home the node is not away. -/
def register (env : Surroundings) (s : MIPv6NDStateHost) : Option Ptr → MoveExec MIPv6NDStateHost
  | some new => do
      let _ ← s.routerOf new
      if s.primaryHA = none then return { s with moved := false }
      else do
        MoveExec.lift env.registers
        return { s with moved := false, away := s.primaryHA ≠ some new }
  | none => .ok s

def handover (heap : StdHeap SimTime) (now : SimTime) (env : Surroundings) (s : MIPv6NDStateHost)
    (newRtr : Option Ptr) : MoveExec MIPv6NDStateHost := do
  MoveExec.require .handoverToCurrent (s.currentRouter ≠ newRtr)
  let oldRtr := s.currentRouter
  let s ← register env { s with away := true } newRtr
  relinquishRouter heap now env s oldRtr newRtr

/-! ### Movement detection -/

/-- Whether the latest router in the list, behind the current one, is on another subnet -/
def laterRouter (s : MIPv6NDStateHost) (cur : Ptr) : MoveExec (Option Ptr) := do
  let (_, re) ← s.routerOf cur
  let found ← s.findRouterFrom re.unicastAddr s.mrl
  match found with
  | some (_, _ :: _) => do
      let last ← MoveExec.lift (Exec.deref .outOfBounds s.mrl.getLast?)
      return if (s.entries cur).globalPrefix ≠ (s.entries last).globalPrefix then some last else none
  | _ => return none

/-- Without a later router the latest one in the list is still printed. -/
def moveOn (heap : StdHeap SimTime) (now : SimTime) (env : Surroundings) (s : MIPv6NDStateHost) :
    MoveExec MIPv6NDStateHost :=
  match s.currentRouter with
  | none => .ok s
  | some cur => do
      match ← s.laterRouter cur with
      | some last => handover heap now env s (some last)
      | none => do
          let _ ← MoveExec.lift (Exec.deref .outOfBounds s.mrl.getLast?)
          handover heap now env s none

def printCurrent (s : MIPv6NDStateHost) : MoveExec Unit :=
  match s.currentRouter with
  | some cur => do
      let _ ← s.routerOf cur
      return ()
  | none => .ok ()

/-- `movementDetectedCallback`, called by the missed advertisement timer or by a link layer trigger -/
def movementDetectedCallback (heap : StdHeap SimTime) (now : SimTime) (env : Surroundings) (s : MIPv6NDStateHost)
    (missed : Bool) : MoveExec MIPv6NDStateHost :=
  let s := if s.currentRouter.isSome then { s with previousDefaultRouter := s.currentRouter } else s
  if s.rt.numInterfaceGates = 0 ∨ env.initStarted = false then .ok s
  else if missed then do
    s.printCurrent
    moveOn heap now env { s with moved := true, away := true }
  else if s.ignoreInitiall2trigger then .ok { s with ignoreInitiall2trigger := false }
  else moveOn heap now env { s with
    moved := true
    away := true
    missedTmr := s.missedTmr.map fun tmr => { tmr with arrival := none } }

/-- The timer has fired. -/
def missedRtrAdv (heap : StdHeap SimTime) (now : SimTime) (env : Surroundings) (s : MIPv6NDStateHost)
    (tmr : RtrAdvMissedTmr) : MoveExec MIPv6NDStateHost :=
  let tmr := { tmr with consecCountMissed := tmr.consecCountMissed + 1, arrival := none }
  if tmr.allowCount < tmr.consecCountMissed then
    movementDetectedCallback heap now env { s with missedTmr := some tmr } true
  else .ok { s with missedTmr := some { tmr with arrival := some (now + tmr.interval) } }

end MIPv6NDStateHost

end MobileIPv6

end IPv6Suite
