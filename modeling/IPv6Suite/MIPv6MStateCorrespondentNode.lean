import IPv6Suite.IPv6Encapsulation
import IPv6Suite.MIPv6MobilityState
import IPv6Suite.NonceGeneration

namespace IPv6Suite

open Lib

/-- What a Binding Update is answered with -/
inductive MobilityReply where
  | ba (ba : BADatagram)
  | be (status : Nat) (destAddress : Ipv6Addr)
deriving DecidableEq

structure CorrespondentNode where
  bc : BindingCache
  nonces : Fin 8 → BitVec 16
  earlyBindingUpdate : Bool

/-- The lifetime of a Binding Update is 0, or it comes from home. -/
def MobilityDatagram.Deregisters (dgram : MobilityDatagram BU) : Prop :=
  dgram.encapsulatedMsg.expires = 0 ∨ MIPv6MobilityState.coa dgram = MIPv6MobilityState.hoa dgram

instance deregistersDecidable (dgram : MobilityDatagram BU) : Decidable dgram.Deregisters :=
  instDecidableOr

namespace CorrespondentNode

/-- What replaces the binding: an early Binding Update, or a handover before, has left an entry that
gets the care-of address. -/
def register (cn : CorrespondentNode) (dgram : MobilityDatagram BU) (tentativeBinding : Bool) :
    BindingCache :=
  let bu := dgram.encapsulatedMsg
  let hoa := MIPv6MobilityState.hoa dgram
  match cn.bc.findBinding hoa with
  | some bce =>
      if cn.earlyBindingUpdate ∧ ¬ tentativeBinding then
        cn.bc.insert hoa
          ({ bce with
              careOfAddr := MIPv6MobilityState.coa dgram
              expires := bu.expires.toNat }.setSeqNo (bu.sequence.setWidth 32))
      else MIPv6MobilityState.registerBCE cn.bc bu hoa dgram
  | none => MIPv6MobilityState.registerBCE cn.bc bu hoa dgram

/-- `processBU`, with the answer and the binding cache afterwards. The casts of the options are
fatal if an option is missing. -/
def processBU (cn : CorrespondentNode) (dgram : MobilityDatagram BU) :
    Exec (Bool × Option MobilityReply × BindingCache) := do
  let bu := dgram.encapsulatedMsg
  let hoa := MIPv6MobilityState.hoa dgram
  let answer (ba : BA) := (dgram.answer hoa ba).map MobilityReply.ba
  let (valid, reply) ← MIPv6MobilityState.preprocessBU cn.bc dgram
  if ¬ valid then return (false, reply.map .ba, cn.bc)
  else if bu.homereg then return (false, answer ⟨.hrNotSupported, 0, 0⟩, cn.bc)
  else do
    let ni ← Exec.deref .fatalError bu.ni
    let hniCheck := checkNonces ni.hni cn.nonces
    let cniCheck := checkNonces ni.coni cn.nonces
    if dgram.Deregisters then
      if ¬ hniCheck then return (false, answer ⟨.unrecHoNI, 0, 0⟩, cn.bc)
      else
        let (removed, bc) := MIPv6MobilityState.deregisterBCE cn.bc hoa
        return (removed, if removed then none else some (.be 1 dgram.srcAddress), bc)
    else if ¬ cniCheck ∧ ¬ hniCheck then return (false, answer ⟨.unrecBothNI, 0, 0⟩, cn.bc)
    else if ¬ hniCheck then return (false, answer ⟨.unrecHoNI, 0, 0⟩, cn.bc)
    else if ¬ cniCheck ∧ ¬ cn.earlyBindingUpdate then
      return (false, answer ⟨.unrecCoNI, 0, 0⟩, cn.bc)
    else do
      let _ ← Exec.deref .fatalError (if bu.auth then some () else none)
      return (true, if bu.ack then answer ⟨.accepted, bu.sequence, bu.expires⟩ else none,
        cn.register dgram (!cniCheck))

end CorrespondentNode

/-- A home agent with its binding cache and the module that tunnels to the care-of addresses -/
structure HomeAgent where
  bc : BindingCache
  tunMod : IPv6Encapsulation

namespace HomeAgent

/-- `registerBCE`; `inputPort` is passed as a `size_t`. -/
def registerBCE (ha : HomeAgent) (localDeliver : Ipv6Addr → Bool) (bu : BU) (hoa : Ipv6Addr)
    (dgram : MobilityDatagram BU) : Exec HomeAgent := do
  let oldcoa := ((ha.bc.findBinding hoa).map (·.careOfAddr)).getD .unspecified
  let bc := MIPv6MobilityState.registerBCE ha.bc bu hoa dgram
  let bce ← Exec.deref .assertFailed (bc.findBinding hoa)
  let gaddr := dgram.destAddress
  Exec.assert (gaddr ≠ .unspecified)
  let found ← ha.tunMod.findTunnel gaddr bce.careOfAddr
  let (vifIndex, tunMod) ← (if found = 0 then
      ha.tunMod.createTunnel localDeliver gaddr bce.careOfAddr (dgram.inputPort % 2 ^ 64).toNat
        .unspecified false
    else .ok (found, ha.tunMod))
  let (_, tunMod) ← (if oldcoa ≠ .unspecified ∧ oldcoa ≠ bce.careOfAddr then
      tunMod.destroyTunnel gaddr oldcoa
    else .ok (false, tunMod))
  let tunMod := if bu.llac then
      (tunMod.tunnelDestination (IPv6Address.host bce.homeAddr) vifIndex).2
    else tunMod
  return { bc, tunMod }

/-- `(*cds)[hoa].neighbour`, which leaves an entry in the destination cache -/
def lookup (ha : HomeAgent) (hoa : Ipv6Addr) : Option NeighbourEntry × HomeAgent :=
  let cds := ha.tunMod.cds
  let key := IPv6Address.host hoa
  let de := (cds.destCache[key]?).getD {}
  (cds.lock de.neighbour,
    { ha with tunMod := { ha.tunMod with cds := { cds with destCache := cds.destCache.insert key de } } })

def deregisterBCE (ha : HomeAgent) (hoa : Ipv6Addr) : Exec (Bool × HomeAgent) :=
  match ha.bc.findBinding hoa with
  | none => .ok (false, ha)
  | some _ => do
      let (ne, ha) := ha.lookup hoa
      let ne ← Exec.deref .assertFailed ne
      let (destroyed, tunMod) := ha.tunMod.destroyTunnelAt ne.interfaceNo
      Exec.assert destroyed
      let (removed, bc) := MIPv6MobilityState.deregisterBCE ha.bc hoa
      return (removed, { bc, tunMod })

def processBU (ha : HomeAgent) (localDeliver : Ipv6Addr → Bool) (dgram : MobilityDatagram BU) :
    Exec (Bool × Option BADatagram × HomeAgent) := do
  let bu := dgram.encapsulatedMsg
  let hoa := MIPv6MobilityState.hoa dgram
  let (valid, reply) ← MIPv6MobilityState.preprocessBU ha.bc dgram
  if ¬ valid then return (false, reply, ha)
  else do
    Exec.assert (bu.homereg ∨ bu.mapreg)
    if ha.tunMod.cds.lookupAddress hoa = none ∧ ¬ bu.mapreg then
      return (false, dgram.answer hoa ⟨.notHomeSubnet, 0, 0⟩, ha)
    else if dgram.Deregisters then do
      let (removed, ha) ← ha.deregisterBCE hoa
      return (removed, dgram.answer hoa
        (if removed then ⟨.accepted, bu.sequence, 0⟩ else ⟨.notHAForMN, 0, 0⟩), ha)
    else do
      let ha ← ha.registerBCE localDeliver bu hoa dgram
      return (true, dgram.answer hoa ⟨.accepted, bu.sequence, bu.expires⟩, ha)

def expireLifetimes (ha : HomeAgent) : HomeAgent :=
  { ha with bc := ha.bc.expireLifetimes mipv6Period.toNat }

end HomeAgent

end IPv6Suite
