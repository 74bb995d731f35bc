import IPv6Suite.MIPv6MStateCorrespondentNode
import IPv6Suite.MIPv6MStateMobileNode

namespace IPv6Suite

open Lib

/-- The message is a mobility message, or one is inside a datagram that is tunnelled. -/
def EncapsulatedMsg.hasMobility : EncapsulatedMsg → Bool
  | .mobility _ _ => true
  | .datagram inner _ => inner
  | .upper _ _ => false

def EncapsulatedMsg.isMobility : EncapsulatedMsg → Bool
  | .mobility _ _ => true
  | .datagram _ _ => false
  | .upper _ _ => false

theorem EncapsulatedMsg.isMobility_eq_false_iff (msg : EncapsulatedMsg) :
    msg.isMobility = false ↔ ∀ bu message, msg ≠ .mobility bu message := by
  cases msg with
  | mobility bu message => exact ⟨nofun, fun other => absurd rfl (other bu message)⟩
  | datagram inner message => exact ⟨fun _ => nofun, fun _ => rfl⟩
  | upper protocol message => exact ⟨fun _ => nofun, fun _ => rfl⟩

/-- `MIPv6RteOpt(homeAddr)` -/
def HdrExtRte.createMIPv6 (homeAddr : Ipv6Addr) : Exec HdrExtRte :=
  HdrExtRte.addAddress { HdrExtRte.create type2RtHdr with isMIPv6RteOpt := true } homeAddr

namespace MIPv6MobilityState

def addRoutingHeader (hoa : Ipv6Addr) (dgram : IPv6Datagram) : Exec (Bool × IPv6Datagram) := do
  let (pointer, dgram) ← dgram.acquireRoutingInterface
  let j ← Exec.deref .nullDeref pointer
  let rtProc ← Exec.deref .nullDeref dgram.extHdrs[j]?
  Exec.assert (rtProc.routingHeader type2RtHdr = none)
  let rt2 ← HdrExtRte.createMIPv6 hoa
  return (true, { dgram with extHdrs := dgram.extHdrs.set j (rtProc.addRoutingHeader rt2).2 })

end MIPv6MobilityState

namespace CorrespondentNode

/-- `cnSendPacketCheck`: the destination of a datagram becomes the care-of address in its binding. -/
def cnSendPacketCheck (cn : CorrespondentNode) (dgram : IPv6Datagram) :
    Exec (Bool × IPv6Datagram) :=
  if dgram.encapsulatedMsg.hasMobility then .ok (false, dgram)
  else
    match cn.bc.findBinding dgram.destAddress with
    | none => .ok (false, dgram)
    | some bce => do
        Exec.assert (bce.homeAddr = dgram.destAddress)
        MIPv6MobilityState.addRoutingHeader bce.homeAddr
          { dgram with destAddress := bce.careOfAddr }

end CorrespondentNode

namespace MobileNode

/-- The entry has the care-of address of the node, and the peer is assumed to have it too. -/
def Optimises (mn : MobileNode) (bule : BuEntry) (datagram : IPv6Datagram) : Prop :=
  (∀ bu message, datagram.encapsulatedMsg ≠ .mobility bu message) ∧
    (bule.isPerformingRR mn.earlyBindingUpdate mn.now = false ∨
      mn.earlyBindingUpdate = true ∧ bule.ebuWaitingOnHOT mn.now = false) ∧
    (mn.sendBUAckFlag = true → bule.buReceived = true) ∧ bule.homeAddr = datagram.srcAddress ∧
    bule.problem = false ∧ bule.state = 0 ∧ 0 < bule.expires

instance mobilityDecidable (msg : EncapsulatedMsg) :
    Decidable (∀ bu message, msg ≠ .mobility bu message) :=
  decidable_of_iff (msg.isMobility = false) msg.isMobility_eq_false_iff

instance optimisesDecidable (mn : MobileNode) (bule : BuEntry) (datagram : IPv6Datagram) :
    Decidable (mn.Optimises bule datagram) :=
  instDecidableAnd

def addHomeAddress (bule : BuEntry) (datagram : IPv6Datagram) : Exec IPv6Datagram := do
  let (pointer, datagram) ← datagram.acquireDestInterface
  let j ← Exec.deref .nullDeref pointer
  let destProc ← Exec.deref .nullDeref datagram.extHdrs[j]?
  Exec.assert (destProc.getOption = none)
  let (test, destProc) := destProc.addOption datagram.srcAddress
  Exec.assert test
  return { datagram with
    extHdrs := datagram.extHdrs.set j destProc
    srcAddress := bule.careOfAddr }

/-- `mnSendPacketCheck`, with `tunnel`. A node that is still at home may send test init messages
before. -/
def mnSendPacketCheck (mn : MobileNode) (tunMod : IPv6Encapsulation) (careOfAddr : Ipv6Addr)
    (datagram : IPv6Datagram) : Exec (Bool × Bool × IPv6Datagram) :=
  match mn.primaryHA with
  | none => .ok (true, false, datagram)
  | some ha =>
      let bule := mn.findBU datagram.destAddress
      if ¬ mn.awayFromHome ∨ datagram.srcAddress ≠ mn.homeAddr then .ok (true, false, datagram)
      else if bule.any (fun bule => bule.careOfAddr = bule.homeAddr) then
        .ok (true, false, datagram)
      else
        match bule.filter (mn.Optimises · datagram) with
        | some bule => do
            let datagram ← addHomeAddress bule datagram
            return (true, false, datagram)
        | none => do
            let vIfIndex ← tunMod.findTunnel careOfAddr ha
            if vIfIndex = 0 then return (false, false, datagram)
            else return (true, true, { datagram with outputPort := vIfIndex })

end MobileNode

end IPv6Suite
