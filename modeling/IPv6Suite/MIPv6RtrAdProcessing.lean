import IPv6Suite.Lib.Ensures
import IPv6Suite.MIPv6NDStateHost
import Mathlib

namespace IPv6Suite

open Lib

def OptPrefix.address (opt : OptPrefix) : IPv6Address := IPv6Address.ofAddr opt.prefixAddr opt.prefixLen.toNat

namespace MobileIPv6

namespace MIPv6RtrAd

/-- What a home agent says of its own lifetime goes before the router's. -/
def lifetime (ra : MIPv6RtrAd) : BitVec 32 :=
  match ra.isHomeAgent, ra.homeAgentInfo with
  | true, some (_, haLifetime) => haLifetime
  | _, _ => ra.routerLifetime.setWidth 32

def preference (ra : MIPv6RtrAd) : BitVec 32 :=
  match ra.isHomeAgent, ra.homeAgentInfo with
  | true, some (haPref, _) => haPref
  | _, _ => 0

end MIPv6RtrAd

namespace MIPv6NDStateHost

variable (heap : StdHeap SimTime) (now : SimTime) (env : Surroundings)

/-- Whether the node is away from home is looked up until there is a home agent. -/
def awayFromHome (s : MIPv6NDStateHost) : Bool × MIPv6NDStateHost :=
  if s.awayCheckDone ∧ s.primaryHA.isSome then (s.away, s)
  else
    let away := s.homeAddr ≠ .unspecified ∧ (s.rt.cds.lookupAddress s.homeAddr).isNone
    (away, { s with awayCheckDone := true, away })

/-! ### The entry of the router -/

/-- One prefix of the advertisement, with whether a global address has been found before it -/
def recordPrefix (ha : Ptr) (state : MIPv6NDStateHost × Bool) (opt : OptPrefix) :
    MoveExec (MIPv6NDStateHost × Bool) :=
  let (s, globalFound) := state
  match s.rt.cds.getPrefixEntry opt.address with
  | none => .ok (s, globalFound)
  | some node =>
      let s := s.modifyEntry ha (·.addOnLinkPrefix node.entry)
      if node.entry.advRtrAddr then
        if globalFound then .error (.other .assertFailed)
        else
          let s := s.modifyEntry ha fun e => { e with globalPrefix := opt.address }
          .ok (s.withCds (s.rt.cds.setNextHop (s.entries ha).addr (s.entries ha).re), true)
      else .ok (s, globalFound)

/-- A new entry behind those that have been allocated -/
def createEntry (s : MIPv6NDStateHost) (ra : MIPv6RtrAd) : MIPv6NDStateHost :=
  { s with
    next := s.next + 1
    entries := Function.update s.entries s.next {
      re := (s.rt.cds.router ra.srcAddress).map (·.1)
      isHomeAgent := ra.isHomeAgent
      globalPrefix := ⟨.unspecified, 128⟩
      lifetime := ra.lifetime
      preference := ra.preference
      prefixes := [] } }

/-- A router that is not in the list is the statically configured home agent, which gets the link local address of the
advertisement in place of the new entry, or it joins the list. -/
def registerNew (s : MIPv6NDStateHost) (ra : MIPv6RtrAd) (ha : Ptr) : MoveExec (Ptr × Bool × MIPv6NDStateHost) := do
  match ← s.findRouter (s.entries ha).addr with
  | some sha => do
      MoveExec.assert (s.primaryHA = some sha)
      let (_, re) ← s.routerOf sha
      let s := s.withCds (s.rt.cds.removeRouterEntry re.unicastAddr)
      let s := s.modifyEntry sha fun e => { e with re := (s.rt.cds.router ra.srcAddress).map (·.1) }
      s.deleteEntry ha
      return (sha, false, s.withCds (s.rt.cds.setNextHop (s.entries sha).addr (s.entries sha).re))
  | none => do
      let s ← s.insertHomeAgent ha
      return (ha, true, s)

/-- A router that has been in the list before becomes the latest one, unless it is on the subnet of the latest. -/
def reviseOrder (s : MIPv6NDStateHost) (ha : Ptr) (bha : Option Ptr) : MoveExec MIPv6NDStateHost :=
  if s.currentRouter = some ha then .ok s
  else do
    let last ← MoveExec.lift (Exec.deref .outOfBounds s.mrl.getLast?)
    return if (s.entries last).globalPrefix ≠ (s.entries ha).globalPrefix then
        { s with mrl := s.mrl.filter (some · ≠ bha) ++ bha.toList }
      else s

/-- The list once the router's entry is complete -/
def enlist (s : MIPv6NDStateHost) (ra : MIPv6RtrAd) (known : Option Ptr) (ha : Ptr) :
    MoveExec (Ptr × MIPv6NDStateHost) :=
  match known with
  | some bha => do
      let s ← s.reviseOrder ha (some bha)
      MoveExec.assert (bha = ha)
      return (ha, s)
  | none => do
      let (ha, created, s) ← s.registerNew ra ha
      let bha ← s.findRouter ra.srcAddress
      if created then
        MoveExec.assert (bha = some ha)
        return (ha, s)
      else do
        let s ← s.reviseOrder ha bha
        MoveExec.assert (bha = some ha)
        return (ha, s)

/-! ### The current router -/

/-- The first home agent that is heard of at home becomes the primary one. -/
def choosePrimaryHA (s : MIPv6NDStateHost) (ra : MIPv6RtrAd) (bha : Ptr) : MoveExec MIPv6NDStateHost :=
  if s.primaryHA.isSome then .ok s
  else
    let (away, s) := s.awayFromHome
    if away = false ∧ ra.isHomeAgent then do
      let homeAddr ← MoveExec.lift (env.formCareOfAddress (s.entries bha).globalPrefix ra.inputPort)
      return { s with primaryHA := some bha, homeAddr }
    else .ok s

/-- An incomplete static home agent does not stay the default router when the node starts away from home. -/
def leaveStaticHA (s : MIPv6NDStateHost) (bha : Ptr) : MoveExec MIPv6NDStateHost := do
  let (p, re) ← MoveExec.lift (Exec.deref .nullDeref s.rt.cds.defaultRouter)
  if re.state = .incomplete then do
    let ha ← MoveExec.lift (Exec.deref .assertFailed s.primaryHA)
    let locked := fun q => ((s.entries q).re.bind fun r => (s.rt.cds.routerAt r).map fun _ => r)
    if locked ha = some p ∧ s.rt.cds.routerCount = 2 ∧ locked bha ≠ some p then
      s.setDefaultRouter (some bha)
    else return s
  else return s

def handoverTo (s : MIPv6NDStateHost) (ra : MIPv6RtrAd) (bha : Ptr) : MoveExec MIPv6NDStateHost :=
  if s.hmipSupport ∧ ra.hasMapOptions then .ok s else handover heap now env s (some bha)

/-- Whether the current router is to be left for the one that has advertised -/
def leaves (s : MIPv6NDStateHost) (cur : Ptr) : MoveExec Bool := do
  let (_, re) ← s.routerOf cur
  return (re.state ≠ .stale ∧ re.state ≠ .reachable) ∨ (s.rt.cds.lock (s.rt.cds.neighbour re.unicastAddr)).isNone ∨
    s.moved ∨ s.eagerHandover

def chooseCurrent (s : MIPv6NDStateHost) (ra : MIPv6RtrAd) (bha : Ptr) : MoveExec MIPv6NDStateHost :=
  match s.currentRouter with
  | none => do
      let s ← s.leaveStaticHA bha
      if (s.moved ∨ s.eagerHandover) ∧ s.primaryHA.isSome then s.handoverTo heap now env ra bha
      else return { s with currentRouter := some bha }
  | some cur =>
      if s.primaryHA.isSome ∧ cur ≠ bha then do
        if ← s.leaves cur then s.handoverTo heap now env ra bha
        else return s
      else .ok s

/-! ### The missed advertisement timer -/

def updateMissedTmr (s : MIPv6NDStateHost) (ra : MIPv6RtrAd) (bha : Ptr) : MoveExec MIPv6NDStateHost :=
  if ra.advInterval ≠ 0 then
    let newInterval : SimTime := ra.advInterval.toNat / 1000
    if s.currentRouter = some bha then
      match s.missedTmr with
      | none => .ok { s with
          missedTmr := some ⟨0, s.maxConsecutiveMissedRtrAdv, newInterval, some (now + newInterval)⟩ }
      | some tmr => .ok { s with missedTmr := some (tmr.reset now newInterval) }
    else .ok { s with potentialNewInterval := newInterval }
  else do
    let s := { s with potentialNewInterval := 0 }
    MoveExec.require .noMissedTmr (s.missedTmr.isSome = true)
    return { s with missedTmr := s.missedTmr.map fun tmr => { tmr with arrival := none } }

/-! ### An advertisement -/

def processEntry (s : MIPv6NDStateHost) (ra : MIPv6RtrAd) (known : Option Ptr) (ha : Ptr) :
    MoveExec MIPv6NDStateHost := do
  let (s, globalFound) ← ra.prefixes.foldlM (recordPrefix ha) (s, false)
  if globalFound then do
    let (bha, s) ← s.enlist ra known ha
    let s ← s.choosePrimaryHA env ra bha
    let s ← s.chooseCurrent heap now env ra bha
    s.updateMissedTmr now ra bha
  else do
    s.deleteEntry ha
    return s

def processRtrAd (s : MIPv6NDStateHost) (ra : MIPv6RtrAd) : MoveExec MIPv6NDStateHost := do
  let rt ← MoveExec.lift (NDStateHost.processRtrAd heap now s.rt ra.toRtrAd)
  let s := { s with rt }
  match ← s.findRouter ra.srcAddress with
  | some ha =>
      if ra.isHomeAgent = false ∧ (s.entries ha).isHomeAgent = true then return s.removeHomeAgent ha
      else if ra.lifetime = 0 then return s.removeHomeAgent ha
      else do
        MoveExec.assert ((s.entries ha).isHomeAgent = ra.isHomeAgent)
        let s := s.modifyEntry ha fun e => { e with preference := ra.preference, lifetime := ra.lifetime }
        if ra.prefixes = [] then return s else s.processEntry heap now env ra (some ha) ha
  | none =>
      if ra.lifetime = 0 ∨ ra.prefixes = [] then return s
      else (s.createEntry ra).processEntry heap now env ra none s.next

/-! ### The mobile node -/

def create (rt : RoutingTable6) (eagerHandover hmipSupport : Bool) (maxConsecutiveMissedRtrAdv : Nat) :
    MIPv6NDStateHost where
  rt := rt
  entries := fun _ => ⟨none, false, ⟨.unspecified, 128⟩, 0, 0, []⟩
  next := 0
  mrl := []
  primaryHA := none
  currentRouter := none
  previousDefaultRouter := none
  homeAddr := .unspecified
  away := false
  moved := false
  awayCheckDone := false
  missedTmr := none
  potentialNewInterval := 0
  ignoreInitiall2trigger := true
  eagerHandover := eagerHandover
  hmipSupport := hmipSupport
  maxConsecutiveMissedRtrAdv := maxConsecutiveMissedRtrAdv

/-- The home agent that is configured, as `MIPv6MStateMobileNode::initialize` enters it -/
def assignHomeAgent (env : Surroundings) (s : MIPv6NDStateHost) (haAddr : Ipv6Addr) : MoveExec MIPv6NDStateHost := do
  let re := { RouterEntry.create haAddr 0 none validLifetimeInfinity with state := .incomplete }
  let (p, cds) ← MoveExec.lift (s.rt.cds.insertRouterEntry re false)
  let ha := s.next
  let s := { s with
    rt := { s.rt with cds }
    next := ha + 1
    entries := Function.update s.entries ha ⟨some p, true, ⟨haAddr, 64⟩, validLifetimeInfinity, 0, []⟩ }
  let s ← s.insertHomeAgent ha
  let homeAddr ← MoveExec.lift (env.formCareOfAddress (s.entries ha).globalPrefix 0)
  return { s with
    primaryHA := some ha
    homeAddr
    away := true
    currentRouter := none
    rt := { s.rt with cds := s.rt.cds.removeDestEntryByNeighbour haAddr } }

inductive Initial : MIPv6NDStateHost → Prop
  | noHomeAgent (rt : RoutingTable6) (eagerHandover hmipSupport : Bool) (maxConsecutiveMissedRtrAdv : Nat) :
      Initial (create rt eagerHandover hmipSupport maxConsecutiveMissedRtrAdv)
  | homeAgent {rt : RoutingTable6} {eagerHandover hmipSupport : Bool} {maxConsecutiveMissedRtrAdv : Nat}
      {env : Surroundings} {haAddr : Ipv6Addr} {s : MIPv6NDStateHost}
      (assigned : assignHomeAgent env (create rt eagerHandover hmipSupport maxConsecutiveMissedRtrAdv) haAddr = .ok s) :
      Initial s

/-- The lifetimes go down, and entries without one leave the list. -/
def expireLifetimes (s : MIPv6NDStateHost) (dec : BitVec 32) : MIPv6NDStateHost :=
  s.mrl.foldl (fun s p =>
    if dec < (s.entries p).lifetime then s.modifyEntry p fun e => { e with lifetime := e.lifetime - dec }
    else { s with mrl := s.mrl.erase p }) s

end MIPv6NDStateHost

inductive Trigger where
  | rtrAd (ra : MIPv6RtrAd)
  | missedRtrAdv
  | l2Trigger
  | expireLifetimes (dec : BitVec 32)
  | routerTimer
  | prefixTimer

structure MobileEvent where
  now : SimTime
  env : Surroundings
  trigger : Trigger

namespace MobileEvent

open MIPv6NDStateHost

def advance (heap : StdHeap SimTime) (s : MIPv6NDStateHost) (e : MobileEvent) : MoveExec MIPv6NDStateHost :=
  match e.trigger with
  | .rtrAd ra => s.processRtrAd heap e.now e.env ra
  | .missedRtrAdv =>
      match s.missedTmr with
      | some tmr => s.missedRtrAdv heap e.now e.env tmr
      | none => .ok s
  | .l2Trigger => s.movementDetectedCallback heap e.now e.env false
  | .expireLifetimes dec => .ok (s.expireLifetimes dec)
  | .routerTimer => do
      let rt ← MoveExec.lift (s.rt.routerTimer heap e.now)
      return { s with rt }
  | .prefixTimer => do
      let rt ← MoveExec.lift (s.rt.prefixTimer heap e.now)
      return { s with rt }

def step (heap : StdHeap SimTime) (s : MIPv6NDStateHost) (e : MobileEvent) : Exec MIPv6NDStateHost :=
  (advance heap s e).mapError (·.fault)

/-- The missed advertisement timer fires when it is due. -/
def Admits (s : MIPv6NDStateHost) (e : MobileEvent) : Prop :=
  match e.trigger with
  | .missedRtrAdv => s.missedTmr.bind (·.arrival) = some e.now
  | _ => True

instance (s : MIPv6NDStateHost) (e : MobileEvent) : Decidable (Admits s e) :=
  match e with
  | ⟨now, _, .missedRtrAdv⟩ => inferInstanceAs (Decidable (s.missedTmr.bind (·.arrival) = some now))
  | ⟨_, _, .rtrAd _⟩ | ⟨_, _, .l2Trigger⟩ | ⟨_, _, .expireLifetimes _⟩ | ⟨_, _, .routerTimer⟩
  | ⟨_, _, .prefixTimer⟩ => isTrue trivial

/-- Whether the prefix is in the prefix list as a global address of the router -/
def givesGlobal (cds : IPv6CDS) (opt : OptPrefix) : Bool := (cds.getPrefixEntry opt.address).any (·.entry.advRtrAddr)

/-- An advertisement that is for the entry of its router gives a global address, unless the router is new; and if it
gives one, then it has an advertisement interval too, unless the timer exists already. -/
def SoundAd (s : MIPv6NDStateHost) (ra : MIPv6RtrAd) (rt : RoutingTable6) (known : Option Ptr) : Prop :=
  (∀ ha ∈ known, (s.entries ha).isHomeAgent = ra.isHomeAgent) → ra.lifetime ≠ 0 → ra.prefixes ≠ [] →
    if ra.prefixes.any (givesGlobal rt.cds) then ra.advInterval ≠ 0 ∨ s.missedTmr.isSome = true else known = none

instance (s : MIPv6NDStateHost) (ra : MIPv6RtrAd) (rt : RoutingTable6) : DecidablePred (SoundAd s ra rt) :=
  fun _ => inferInstanceAs (Decidable (_ → _ → _ → ite _ _ _))

/-- The routers and the prefixes are those that the host's part of the function has left. -/
def Sound (heap : StdHeap SimTime) (s : MIPv6NDStateHost) (e : MobileEvent) : Prop :=
  match e.trigger with
  | .rtrAd ra =>
      OnReturn (fun rt => OnReturn (SoundAd s ra rt) (findRouter { s with rt } ra.srcAddress))
        (NDStateHost.processRtrAd heap e.now s.rt ra.toRtrAd)
  | _ => True

instance (heap : StdHeap SimTime) (s : MIPv6NDStateHost) (e : MobileEvent) : Decidable (Sound heap s e) :=
  match e with
  | ⟨_, _, .rtrAd _⟩ => inferInstanceAs (Decidable (OnReturn _ _))
  | ⟨_, _, .missedRtrAdv⟩ | ⟨_, _, .l2Trigger⟩ | ⟨_, _, .expireLifetimes _⟩ | ⟨_, _, .routerTimer⟩
  | ⟨_, _, .prefixTimer⟩ => isTrue trivial

end MobileEvent

end MobileIPv6

end IPv6Suite
