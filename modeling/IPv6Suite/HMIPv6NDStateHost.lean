import IPv6Suite.DupAddrDet
import IPv6Suite.ICMPv6NDMessage
import IPv6Suite.MIPv6ReturnRoutability
import Mathlib.Data.Rat.Floor

namespace IPv6Suite

open Lib

/-- The assertions that a MAP is in the list, and that no better one is found while a hand-over waits -/
inductive MapAssertion where
  | setCurrentMap
  | currentMap
  | mapHandover
  | betterMap
deriving DecidableEq

inductive HostFault where
  | map (assertion : MapAssertion)
  | other (fault : Fault)
deriving DecidableEq

def HostFault.fault : HostFault → Fault
  | map _ => .assertFailed
  | other fault => fault

abbrev HostExec (α : Type) := Except HostFault α

namespace HostExec

def assert (assertion : MapAssertion) (p : Prop) [Decidable p] : HostExec Unit :=
  if p then .ok () else .error (.map assertion)

def lift {α : Type} (r : Exec α) : HostExec α := r.mapError .other

end HostExec

/-- `options` has the distance in the bits from 12 on, the preference in those from 8 on, and the flag R in bit 7. -/
structure HMIPv6MAPEntry where
  options : BitVec 32
  expires : BitVec 32
  mapAddr : Ipv6Addr
deriving DecidableEq

namespace HMIPv6MAPEntry

def distance (e : HMIPv6MAPEntry) : BitVec 32 := (e.options &&& 0xF000) >>> 12

/-- The entry of the default constructor -/
def invalidMAP : HMIPv6MAPEntry := ⟨1 <<< 12 ||| 9 <<< 8, 0, .unspecified⟩

/-- The furthest MAP comes first. -/
def lt (a b : HMIPv6MAPEntry) : Prop := b.distance < a.distance

instance : DecidableRel lt := fun _ _ => inferInstanceAs (Decidable (_ < _))

def setDistance (e : HMIPv6MAPEntry) (dist : BitVec 32) : Exec HMIPv6MAPEntry := do
  Exec.assert (dist < 1 <<< 4 ∧ 0 < dist)
  return { e with options := e.options &&& 0x0FFF ||| dist <<< 12 }

def setPreference (e : HMIPv6MAPEntry) (pref : BitVec 32) : Exec HMIPv6MAPEntry := do
  Exec.assert (pref < 1 <<< 4)
  return { e with options := e.options &&& 0xF0FF ||| pref <<< 8 }

def setR (e : HMIPv6MAPEntry) (r : Bool) : HMIPv6MAPEntry :=
  { e with options := if r then e.options ||| 1 <<< 7 else e.options &&& ~~~((1 : BitVec 32) <<< 7) }

def ofOption (src : HMIPv6ICMPv6NDOptMAP) : Exec HMIPv6MAPEntry := do
  let e ← setDistance ⟨0, src.expires, src.map_addr⟩ src.dist
  let e ← e.setPreference src.pref
  return e.setR src.r

end HMIPv6MAPEntry

/-- The current MAP need not be in the list. -/
structure HMIPv6CDSMobileNode where
  maps : StdMap Ipv6Addr HMIPv6MAPEntry Ipv6Addr.lt
  mapAddr : Ipv6Addr

namespace HMIPv6CDSMobileNode

def isMAPValid (cds : HMIPv6CDSMobileNode) : Bool := cds.mapAddr ≠ .unspecified ∧ cds.mapAddr ∈ cds.maps

def currentMap (cds : HMIPv6CDSMobileNode) : HostExec HMIPv6MAPEntry :=
  match cds.maps[cds.mapAddr]? with
  | some e => .ok e
  | none => .error (.map .currentMap)

def setCurrentMap (cds : HMIPv6CDSMobileNode) (addr : Ipv6Addr) : HostExec HMIPv6CDSMobileNode := do
  HostExec.assert .setCurrentMap (addr ∈ cds.maps)
  return { cds with mapAddr := addr }

def setNoCurrentMap (cds : HMIPv6CDSMobileNode) : HMIPv6CDSMobileNode := { cds with mapAddr := .unspecified }

def mapBinding (cds : HMIPv6CDSMobileNode) (bul : BindingUpdateList) : HostExec (Option BuEntry) :=
  if cds.isMAPValid then do
    let map ← cds.currentMap
    return bul.findBU map.mapAddr
  else .ok none

def localCareOfAddr (cds : HMIPv6CDSMobileNode) (bul : BindingUpdateList) : HostExec Ipv6Addr := do
  let bule ← cds.mapBinding bul
  return (bule.map (·.careOfAddr)).getD .unspecified

def remoteCareOfAddr (cds : HMIPv6CDSMobileNode) (bul : BindingUpdateList) : HostExec Ipv6Addr := do
  let bule ← cds.mapBinding bul
  return (bule.map (·.homeAddr)).getD .unspecified

end HMIPv6CDSMobileNode

/-- `linkLocal` is the address of the router in its advertisements, `globalAddr` the one advertised with its prefix
length. -/
structure MIPv6RouterEntry where
  linkLocal : Ipv6Addr
  globalAddr : IPv6Address
  ifIndex : Nat
deriving DecidableEq

/-- The upper `nb` bits of a word. Where the prefix ends at a word the next one is shifted by its width, which the
language leaves undefined: here nothing of it is kept. -/
def upperBits (nb : Nat) (word : BitVec 32) : BitVec 32 := word >>> (32 - nb) <<< (32 - nb)

def IPv6Address.truncate (a : IPv6Address) : Ipv6Addr :=
  if 0 < a.prefixLength ∧ a.prefixLength < 128 then
    ⟨upperBits a.prefixLength a.addr.extreme, upperBits (a.prefixLength - 32) a.addr.high,
      upperBits (a.prefixLength - 64) a.addr.normal, upperBits (a.prefixLength - 96) a.addr.low⟩
  else a.addr

structure HostInterface where
  ipv6 : IPv6InterfaceData
  interfaceToken : InterfaceToken

/-- What the node knows beside its MAPs. Routers are referred to by their link local addresses. -/
structure HMIPv6Tables where
  mn : MobileNode
  odad : Bool
  forwardFromPreviousMap : Bool
  interfaces : List HostInterface
  mrl : List MIPv6RouterEntry
  currentRouter : Option Ipv6Addr
  minValidLifetime : Nat

namespace HMIPv6Tables

def interfaceByPortNo (t : HMIPv6Tables) (ifIndex : Nat) : Exec HostInterface :=
  Exec.deref .nullDeref t.interfaces[ifIndex]?

def findRouter (t : HMIPv6Tables) (llAddr : Ipv6Addr) : Option MIPv6RouterEntry :=
  t.mrl.find? fun re => re.linkLocal = llAddr

def formCareOfAddress (t : HMIPv6Tables) (re : MIPv6RouterEntry) : Exec Ipv6Addr := do
  let ie ← t.interfaceByPortNo re.ifIndex
  Exec.assert (re.globalAddr.prefixLength ≤ ie.interfaceToken.length)
  ie.interfaceToken.toAddr re.globalAddr.truncate

def formRemoteCOA (t : HMIPv6Tables) (me : HMIPv6MAPEntry) (inputPort : Int) : Exec Ipv6Addr := do
  Exec.assert (me.mapAddr ≠ .unspecified)
  let ie ← t.interfaceByPortNo inputPort.toNat
  ie.interfaceToken.toAddr me.mapAddr

/-- Whether an address may be used, which may be while it is still tentative -/
def usable (t : HMIPv6Tables) (ifIndex : Nat) (addr : Ipv6Addr) : Exec Bool := do
  let ie ← t.interfaceByPortNo ifIndex
  Exec.assert (t.odad = true → ie.ipv6.addrAssigned addr ∨ ie.ipv6.tentativeAddrAssigned addr)
  return t.odad || ie.ipv6.addrAssigned addr

def assignAddress (t : HMIPv6Tables) (ifIndex : Nat) (addr : Ipv6Addr) : Exec HMIPv6Tables := do
  let ie ← t.interfaceByPortNo ifIndex
  Exec.assert (¬ ie.ipv6.addrAssigned addr)
  let ipv6 : IPv6InterfaceData :=
    { inetAddrs := ie.ipv6.inetAddrs ++ [.host addr]
      tentativeAddrs := ie.ipv6.tentativeAddrs.filter (·.addr ≠ addr) }
  return { t with interfaces := t.interfaces.set ifIndex { ie with ipv6 } }

def assignNew (t : HMIPv6Tables) (ie : HostInterface) (ifIndex : Nat) (addr : Ipv6Addr) : Exec HMIPv6Tables :=
  if ie.ipv6.addrAssigned addr then .ok t else t.assignAddress ifIndex addr

def removeAddresses (t : HMIPv6Tables) (addrs : List Ipv6Addr) : HMIPv6Tables :=
  { t with interfaces := t.interfaces.map fun ie => { ie with ipv6 :=
      { inetAddrs := ie.ipv6.inetAddrs.filter (·.addr ∉ addrs)
        tentativeAddrs := ie.ipv6.tentativeAddrs.filter (·.addr ∉ addrs) } } }

def sendMapBU (t : HMIPv6Tables) (dest coa hoa : Ipv6Addr) (lifetime : Nat) : Exec HMIPv6Tables := do
  let (_, mn) ← t.mn.sendBU dest coa hoa lifetime false true 0
  return { t with mn }

def sendBUToAll (t : HMIPv6Tables) (coa : Ipv6Addr) (lifetime : Nat) : Exec HMIPv6Tables := do
  let (mn, addrs) ← t.mn.sendBUToAll coa t.mn.homeAddr lifetime
  let mn ← mn.updateEntries coa mn.homeAddr lifetime addrs
  return { t with mn }

end HMIPv6Tables

structure ArgMapHandover where
  bestMap : HMIPv6MAPEntry
  rcoa : Ipv6Addr
  lcoa : Ipv6Addr
  was : SimTime
  ifIndex : Nat
deriving DecidableEq

/-- What is done when an address has been found to be unique -/
inductive AddressCallback where
  | mapHandover (arg : ArgMapHandover)
  | arhandover (lcoa : Ipv6Addr)
  | sendBU (ncoa : Ipv6Addr)
deriving DecidableEq

/-- A router advertisement with MAP options. `relinquished` are the addresses on the links of the current router. -/
structure MapAdvertisement where
  srcAddress : Ipv6Addr
  inputPort : Int
  mapOptions : List HMIPv6ICMPv6NDOptMAP
  relinquished : List Ipv6Addr

structure HMIPv6NDStateHost where
  cds : HMIPv6CDSMobileNode
  addressCallbacks : StdMap Ipv6Addr AddressCallback Ipv6Addr.lt
  tables : HMIPv6Tables

/-- A MAP we cannot bind to -/
def isInvalidMAP (m : HMIPv6ICMPv6NDOptMAP) : Exec Bool := do
  Exec.assert (0 < m.dist)
  Exec.assert (m.map_addr ≠ .unspecified)
  Exec.assert (m.pref ≤ 0xF)
  return decide (m.expires = 0 ∨ m.pref = 0)

/-- `partial_sort` of the first place: each further MAP takes it in turn. -/
def furthest (first : HMIPv6ICMPv6NDOptMAP) :
    List HMIPv6ICMPv6NDOptMAP → Exec (HMIPv6ICMPv6NDOptMAP × List HMIPv6ICMPv6NDOptMAP)
  | [] => .ok (first, [])
  | m :: rest => do
      let a ← HMIPv6MAPEntry.ofOption m
      let b ← HMIPv6MAPEntry.ofOption first
      let (best, others) ← furthest (if a.lt b then m else first) rest
      return (best, (if a.lt b then first else m) :: others)

/-- The best MAP, and the options with it at the front. `remove_if` leaves what is behind the new end as it was. -/
def selectMAP (maps : List HMIPv6ICMPv6NDOptMAP) : Exec (HMIPv6MAPEntry × List HMIPv6ICMPv6NDOptMAP) := do
  let invalid ← maps.mapM isInvalidMAP
  let valid := ((maps.zip invalid).filter fun m => !m.2).map Prod.fst
  let rest := maps.drop valid.length
  match valid with
  | [] => return (.invalidMAP, rest)
  | m :: others => do
      let (best, others) ← furthest m others
      let bestMap ← HMIPv6MAPEntry.ofOption best
      return (bestMap, best :: others ++ rest)

namespace HMIPv6NDStateHost

def start (tables : HMIPv6Tables) : HMIPv6NDStateHost := ⟨⟨∅, .unspecified⟩, ∅, tables⟩

/-- The arguments of the hand-over that waits for an address -/
def waitingHandover (h : HMIPv6NDStateHost) (lcoa : Ipv6Addr) : Option ArgMapHandover :=
  match h.addressCallbacks[lcoa]? with
  | some (.mapHandover arg) => some arg
  | _ => none

def waitingArhandover (h : HMIPv6NDStateHost) (lcoa : Ipv6Addr) : Bool :=
  match h.addressCallbacks[lcoa]? with
  | some (.arhandover _) => true
  | _ => false

def addCallbackToAddress (h : HMIPv6NDStateHost) (addr : Ipv6Addr) (cb : AddressCallback) : Exec HMIPv6NDStateHost := do
  Exec.assert (addr ∉ h.addressCallbacks)
  return { h with addressCallbacks := h.addressCallbacks.insert addr cb }

def removeCallbacks (h : HMIPv6NDStateHost) (addrs : List Ipv6Addr) : HMIPv6NDStateHost :=
  { h with addressCallbacks := addrs.foldl (fun callbacks addr => callbacks.erase addr) h.addressCallbacks }

def setAwayFromHome (h : HMIPv6NDStateHost) (away : Bool) : HMIPv6NDStateHost :=
  { h with tables := { h.tables with mn := { h.tables.mn with awayFromHome := away } } }

/-- The neighbour advertisement that is sent later is left out. -/
def returnHome (h : HMIPv6NDStateHost) : Exec HMIPv6NDStateHost := do
  let h := h.setAwayFromHome false
  let tables ← h.tables.sendBUToAll h.tables.mn.homeAddr 0
  return { h with cds := h.cds.setNoCurrentMap, tables }

/-- Without a current router there is nothing to remove. -/
def relinquishRouter (h : HMIPv6NDStateHost) (newRtr : MIPv6RouterEntry) (relinquished : List Ipv6Addr) :
    HMIPv6NDStateHost :=
  if h.tables.currentRouter.isNone then
    { h with tables := { h.tables with currentRouter := some newRtr.linkLocal } }
  else
    let addrs := relinquished.filter (· ≠ h.tables.mn.homeAddr)
    let tables := h.tables.removeAddresses addrs
    { h.removeCallbacks addrs with
      tables := { tables with currentRouter := some newRtr.linkLocal, mn := { tables.mn with buRetranTmrs := [] } } }

/-- The previous MAP may forward packets for a while, if we are still bound to it. -/
def forwardFrom (h : HMIPv6NDStateHost) (oldMap lcoa : Ipv6Addr) : Exec HMIPv6NDStateHost :=
  if oldMap = .unspecified ∨ h.tables.mn.primaryHA = none then .ok h
  else
    match h.tables.mn.findBU oldMap with
    | none => .ok h
    | some oldBULE =>
        if h.tables.forwardFromPreviousMap then do
          let tables ← h.tables.sendMapBU oldBULE.addr lcoa oldBULE.homeAddr 3
          return { h with tables }
        else .ok h

/-- The tunnels of the previous MAP are left out. -/
def mapHandover (h : HMIPv6NDStateHost) (t : ArgMapHandover) : HostExec HMIPv6NDStateHost := do
  let lifetime := ⌊(t.bestMap.expires.toNat : ℚ) - (h.tables.mn.now - t.was)⌋.toNat
  let oldMap := h.cds.mapAddr
  let cds ← h.cds.setCurrentMap t.bestMap.mapAddr
  let map ← cds.currentMap
  HostExec.assert .mapHandover (map.mapAddr = t.bestMap.mapAddr)
  let tables ← HostExec.lift (h.tables.sendMapBU t.bestMap.mapAddr t.lcoa t.rcoa lifetime)
  HostExec.lift (forwardFrom { h with cds, tables } oldMap t.lcoa)

/-- `none` if it waits for the address, and otherwise whether it may be used -/
def handoverNow (h : HMIPv6NDStateHost) (lcoa : Ipv6Addr) : Exec Bool :=
  if h.waitingArhandover lcoa then .ok true
  else do
    let llAddr ← Exec.deref .nullDeref h.tables.currentRouter
    let re ← Exec.deref .nullDeref (h.tables.findRouter llAddr)
    h.tables.usable re.ifIndex lcoa

/-- The current MAP gets a new local care-of address, unless it has it. -/
def updateMap (h : HMIPv6NDStateHost) (lcoa rcoa : Ipv6Addr) : HostExec HMIPv6NDStateHost := do
  HostExec.lift (Exec.assert (h.tables.mn.primaryHA ≠ none))
  let oldcoa ← h.cds.localCareOfAddr h.tables.mn.bul
  HostExec.lift (Exec.assert (oldcoa ≠ h.tables.mn.homeAddr))
  if oldcoa = lcoa then return h
  else do
    let map ← h.cds.currentMap
    let tables ← HostExec.lift (h.tables.sendMapBU map.mapAddr lcoa rcoa map.expires.toNat)
    return { h with tables }

/-- Whether it takes the place of the base class's hand-over. A callback that waits is not scheduled, so that only the
first call waits. -/
def arhandover (h : HMIPv6NDStateHost) (lcoa : Ipv6Addr) : HostExec (Bool × HMIPv6NDStateHost) := do
  let rcoa ← h.cds.remoteCareOfAddr h.tables.mn.bul
  if rcoa = .unspecified then return (false, h)
  else do
    let assigned ← HostExec.lift (h.handoverNow lcoa)
    let h ← (if assigned then h.updateMap lcoa rcoa
      else HostExec.lift (h.addCallbackToAddress lcoa (.arhandover lcoa)))
    return (true, h)

def sendBU (h : HMIPv6NDStateHost) (ncoa : Ipv6Addr) : HostExec HMIPv6NDStateHost := do
  HostExec.lift (Exec.assert (ncoa ≠ .unspecified))
  let ocoa ← HostExec.lift h.tables.mn.careOfAddr
  HostExec.lift (Exec.assert (ncoa ≠ ocoa))
  if (h.waitingHandover ncoa).isSome ∨ h.waitingArhandover ncoa then return h
  else do
    let (handoverDone, h) ← h.arhandover ncoa
    if handoverDone then return h
    else do
      let tables ← HostExec.lift (h.tables.sendBUToAll ncoa h.tables.minValidLifetime)
      return { h with tables }

/-- No better MAP is expected while a hand-over waits for the address. -/
def preprocessMapHandover (h : HMIPv6NDStateHost) (bestMap : HMIPv6MAPEntry) (accessRouter : MIPv6RouterEntry)
    (inputPort : Int) : HostExec HMIPv6NDStateHost := do
  let ie ← HostExec.lift (h.tables.interfaceByPortNo accessRouter.ifIndex)
  let lcoa ← HostExec.lift (h.tables.formCareOfAddress accessRouter)
  match h.waitingHandover lcoa with
  | some potential => do
      HostExec.assert .betterMap (bestMap = potential.bestMap)
      return h
  | none => do
      let rcoa ← HostExec.lift (h.tables.formRemoteCOA bestMap inputPort)
      let tables ← HostExec.lift (h.tables.assignNew ie inputPort.toNat rcoa)
      HostExec.lift (Exec.assert (-1 < inputPort ∧ inputPort = accessRouter.ifIndex))
      let arg : ArgMapHandover := ⟨bestMap, rcoa, lcoa, tables.mn.now, accessRouter.ifIndex⟩
      let assigned ← HostExec.lift (tables.usable accessRouter.ifIndex lcoa)
      if assigned then mapHandover { h with tables } arg
      else HostExec.lift (addCallbackToAddress { h with tables } lcoa (.mapHandover arg))

/-- The distance of the current MAP is compared with the one it had. -/
def compareDistance (cds : HMIPv6CDSMobileNode) (mapOpt : HMIPv6ICMPv6NDOptMAP) : HostExec Unit :=
  if mapOpt.map_addr = cds.mapAddr then do
    let _ ← cds.currentMap
    return ()
  else .ok ()

/-- Whether the current MAP is among the options, and the new list -/
def storeMaps (cds : HMIPv6CDSMobileNode) : List HMIPv6ICMPv6NDOptMAP → Bool →
    StdMap Ipv6Addr HMIPv6MAPEntry Ipv6Addr.lt → HostExec (Bool × StdMap Ipv6Addr HMIPv6MAPEntry Ipv6Addr.lt)
  | [], curMapFound, mapOptions => .ok (curMapFound, mapOptions)
  | mapOpt :: rest, curMapFound, mapOptions => do
      compareDistance cds mapOpt
      let e ← HostExec.lift (HMIPv6MAPEntry.ofOption mapOpt)
      storeMaps cds rest (curMapFound || decide (mapOpt.map_addr = cds.mapAddr)) (mapOptions.insert mapOpt.map_addr e)

/-- The hand-over to a MAP, or to another access router of the current one -/
def chooseHandover (h : HMIPv6NDStateHost) (oldMap : Ipv6Addr) (bestMap : HMIPv6MAPEntry) (curMapFound : Bool)
    (accessRouter : MIPv6RouterEntry) (inputPort : Int) : HostExec HMIPv6NDStateHost :=
  if ¬ h.tables.mn.awayFromHome then .ok h
  else if curMapFound = false ∨ bestMap.mapAddr ≠ oldMap ∨ h.cds.isMAPValid = false then
    h.preprocessMapHandover bestMap accessRouter inputPort
  else do
    let lcoa ← HostExec.lift (h.tables.formCareOfAddress accessRouter)
    let oldcoa ← h.cds.localCareOfAddr h.tables.mn.bul
    if oldcoa = lcoa then return h
    else Prod.snd <$> h.arhandover lcoa

/-- Whether the access router is the home agent, and the node has been away -/
def backHome (h : HMIPv6NDStateHost) (accessRouter : MIPv6RouterEntry) : Bool :=
  h.tables.mn.primaryHA = some accessRouter.globalAddr.addr ∧ h.tables.mn.bul ≠ []

/-- The list of MAPs becomes the advertised one, also while a hand-over waits. -/
def discoverMAP (h : HMIPv6NDStateHost) (ra : MapAdvertisement) : HostExec HMIPv6NDStateHost := do
  let oldMap := h.cds.mapAddr
  let (bestMap, maps) ← HostExec.lift (selectMAP ra.mapOptions)
  let (curMapFound, mapEntries) ← storeMaps h.cds maps false ∅
  let h := { h with cds := { h.cds with maps := mapEntries } }
  let accessRouter ← HostExec.lift (Exec.deref .assertFailed (h.tables.findRouter ra.srcAddress))
  if h.tables.currentRouter = some accessRouter.linkLocal then
    h.chooseHandover oldMap bestMap curMapFound accessRouter ra.inputPort
  else if h.backHome accessRouter then do
    let h ← HostExec.lift h.returnHome
    return h.relinquishRouter accessRouter ra.relinquished
  else
    ((h.relinquishRouter accessRouter ra.relinquished).setAwayFromHome true).chooseHandover oldMap bestMap curMapFound
      accessRouter ra.inputPort

/-- After the base class. The hand-over of the base class that follows an advertisement without MAPs is a step of its
own. -/
def processRtrAd (h : HMIPv6NDStateHost) (ra : MapAdvertisement) : HostExec HMIPv6NDStateHost :=
  if ra.mapOptions = [] ∨ h.tables.mn.primaryHA = none then
    .ok (if h.cds.isMAPValid ∧ ra.mapOptions = [] then { h with cds := h.cds.setNoCurrentMap } else h)
  else h.discoverMAP ra

def callFunc (h : HMIPv6NDStateHost) : AddressCallback → HostExec HMIPv6NDStateHost
  | .mapHandover arg => h.mapHandover arg
  | .arhandover lcoa => Prod.snd <$> h.arhandover lcoa
  | .sendBU ncoa => h.sendBU ncoa

def invokeCallback (h : HMIPv6NDStateHost) (tentativeAddr : Ipv6Addr) : HostExec HMIPv6NDStateHost :=
  match h.addressCallbacks[tentativeAddr]? with
  | none => .ok h
  | some cb => do
      let h ← h.callFunc cb
      return { h with addressCallbacks := h.addressCallbacks.erase tentativeAddr }

def dupAddrDetSuccess (h : HMIPv6NDStateHost) (ifIndex : Nat) (tentativeAddr : Ipv6Addr) :
    HostExec HMIPv6NDStateHost := do
  let tables ← HostExec.lift (h.tables.assignAddress ifIndex tentativeAddr)
  invokeCallback { h with tables } tentativeAddr

/-- What happens at a mobile node. The hand-overs of the base class are `sendBU` and `deferSendBU`, and with all else
they may change what is known beside the MAPs, and remove callbacks. -/
inductive Event where
  | rtrAd (ra : MapAdvertisement)
  | dupAddrDetSuccess (ifIndex : Nat) (tentativeAddr : Ipv6Addr)
  | returnHome
  | sendBU (ncoa : Ipv6Addr)
  | deferSendBU (coa : Ipv6Addr)
  | other (update : HMIPv6Tables → HMIPv6Tables) (removed : List Ipv6Addr)

def step (h : HMIPv6NDStateHost) : Event → HostExec HMIPv6NDStateHost
  | .rtrAd ra => h.processRtrAd ra
  | .dupAddrDetSuccess ifIndex tentativeAddr => h.dupAddrDetSuccess ifIndex tentativeAddr
  | .returnHome => HostExec.lift h.returnHome
  | .sendBU ncoa => h.sendBU ncoa
  | .deferSendBU coa => HostExec.lift (h.addCallbackToAddress coa (.sendBU coa))
  | .other update removed => .ok { h.removeCallbacks removed with tables := update h.tables }

def next (h : HMIPv6NDStateHost) (e : Event) : Exec HMIPv6NDStateHost := (h.step e).mapError HostFault.fault

end HMIPv6NDStateHost

end IPv6Suite
