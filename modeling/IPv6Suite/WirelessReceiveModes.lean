import IPv6Suite.Lib.KeyList
import IPv6Suite.WEQoSQueue

namespace IPv6Suite

open Lib

/-! ### A station in `WEDataReceiveMode` -/

structure APInfo where
  address : MACAddress6
  associated : Bool
  receivedSequence : Int
deriving DecidableEq

/-- `sendAckTimer` carries the acknowledgement it sends, and `readyFrame` is set while `awaitAckTimer` runs for
the frame at the head of the output queue. `acks` and `upper` list what has been scheduled and what has been
sent to the upper layer, the latest first. -/
structure WirelessStation where
  address : MACAddress6
  associateAP : APInfo
  sendAckTimer : Option AckFrame
  readyFrame : Option WirelessEtherFrame
  acks : List AckFrame
  upper : List Nat
deriving DecidableEq

namespace WirelessStation

def isFrameForMe (s : WirelessStation) (chkFrame : WirelessEtherFrame) : Bool :=
  chkFrame.address1 = s.address ∨ chkFrame.address1 = MACAddress6.broadcast

def scheduleAck (s : WirelessStation) (ack : AckFrame) : Exec WirelessStation := do
  Exec.assert (s.sendAckTimer = none)
  return { s with sendAckTimer := some ack, acks := ack :: s.acks }

/-- A message that is missing cannot be sent. -/
def sendToUpperLayer (s : WirelessStation) (frame : WirelessEtherFrame) : Exec WirelessStation := do
  let dgram ← Exec.deref .fatalError frame.encapsulatedMsg
  return { s with upper := dgram :: s.upper }

def restartScanning (s : WirelessStation) : WirelessStation :=
  { s with
    associateAP := { s.associateAP with address := MACAddress6.unspecified, associated := false }
    readyFrame := none
    sendAckTimer := none }

/-- `weak` tells whether the averaged signal is at most the handover threshold. -/
def handleData (s : WirelessStation) (data : WirelessEtherFrame) (weak : Bool) : Exec WirelessStation :=
  if s.isFrameForMe data ∧ s.associateAP.address = data.address2 ∧ s.address ≠ data.address3 ∧
      (s.associateAP.receivedSequence ≠ data.sequenceNumber.toNat ∨ data.retry = false) then do
    let s := { s with associateAP := { s.associateAP with receivedSequence := data.sequenceNumber.toNat } }
    let s ← s.sendToUpperLayer data
    let s ← if data.address1 ≠ MACAddress6.broadcast then s.scheduleAck ⟨data.address2⟩ else .ok s
    return if weak then s.restartScanning else s
  else .ok s

/-- The frame at the head of the queue is finished, and `awaitAckTimer` cancelled. -/
def handleAck (s : WirelessStation) (ack : AckFrame) : WirelessStation :=
  if ack.address1 = s.address then { s with readyFrame := none } else s

end WirelessStation

/-! ### An access point in `WEAPReceiveMode` -/

structure WirelessEtherInterface where
  address : MACAddress6
  receiveMode : ReceiveMode
  consecFailedTrans : Int
  currentSequence : Int
  expire : SimTime
deriving DecidableEq

namespace WirelessEtherInterface

def unspecified : WirelessEtherInterface := ⟨MACAddress6.unspecified, .unspecified, 0, 0, 0⟩

end WirelessEtherInterface

/-- Where a frame is passed on to: the bridge, the queue of the wireless side, or both -/
inductive Passage where
  | bridge
  | outputQueue
  | both
deriving DecidableEq

/-- The timers are those of a station. `queued` lists the management frames put into the output queue, and
`passed` the data frames passed on. -/
structure WirelessAccessPoint where
  address : MACAddress6
  sequenceNumber : BitVec 16
  ifaces : List WirelessEtherInterface
  simTime : SimTime
  authWaitEntryTimeout : SimTime
  authEntryTimeout : SimTime
  assEntryTimeout : SimTime
  consecFailedTransLimit : Int
  sendAckTimer : Option AckFrame
  readyFrame : Option WirelessEtherFrame
  acks : List AckFrame
  queued : List WirelessEtherFrame
  passed : List (WirelessEtherFrame × Passage)
deriving DecidableEq

namespace WirelessAccessPoint

def isFrameForMe (ap : WirelessAccessPoint) (chkFrame : WirelessEtherFrame) : Bool :=
  chkFrame.address1 = ap.address ∨ chkFrame.address1 = MACAddress6.broadcast

def scheduleAck (ap : WirelessAccessPoint) (ack : AckFrame) : Exec WirelessAccessPoint := do
  Exec.assert (ap.sendAckTimer = none)
  return { ap with sendAckTimer := some ack, acks := ack :: ap.acks }

def addOrUpdate (ap : WirelessAccessPoint) (p : WirelessEtherInterface) : WirelessAccessPoint :=
  { ap with ifaces := ap.ifaces.filter (·.address ≠ p.address) ++ [p] }

def remove (ap : WirelessAccessPoint) (mac : MACAddress6) : WirelessAccessPoint :=
  { ap with ifaces := KeyList.remove WirelessEtherInterface.address mac ap.ifaces }

def entryTimeout (ap : WirelessAccessPoint) : ReceiveMode → SimTime
  | .authRspAckWait => ap.authWaitEntryTimeout
  | .association => ap.authEntryTimeout
  | .assRspAckWait => ap.authEntryTimeout
  | .data => ap.assEntryTimeout
  | _ => 0

def addIface (ap : WirelessAccessPoint) (mac : MACAddress6) (receiveMode : ReceiveMode) (sequenceNo : Int) :
    WirelessAccessPoint :=
  ap.addOrUpdate ⟨mac, receiveMode, 0, sequenceNo, ap.simTime + ap.entryTimeout receiveMode⟩

def findIfaceByMAC (ap : WirelessAccessPoint) (mac : MACAddress6) : WirelessEtherInterface :=
  (KeyList.find WirelessEtherInterface.address mac ap.ifaces).getD WirelessEtherInterface.unspecified

def createDataFrame (ap : WirelessAccessPoint) (source : MACAddress6) (appType : AppType)
    (destination : MACAddress6) : WirelessEtherFrame where
  subtype := .data
  toDS := false
  fromDS := true
  retry := false
  address1 := destination
  address2 := ap.address
  address3 := source
  sequenceNumber := ap.sequenceNumber
  appType := appType
  encapsulatedMsg := none

def createManagementFrame (ap : WirelessAccessPoint) (subtype : SubType) (appType : AppType)
    (destination : MACAddress6) : WirelessEtherFrame where
  subtype := subtype
  toDS := false
  fromDS := false
  retry := false
  address1 := destination
  address2 := ap.address
  address3 := ap.address
  sequenceNumber := ap.sequenceNumber
  appType := appType
  encapsulatedMsg := none

def incrementSequenceNumber (ap : WirelessAccessPoint) : WirelessAccessPoint :=
  { ap with sequenceNumber := BitVec.ofNat 16 ((ap.sequenceNumber.toNat + 1) % 4096) }

/-- A management frame without its body is created and queued. -/
def queueManagementFrame (ap : WirelessAccessPoint) (subtype : SubType) (destination : MACAddress6) :
    WirelessAccessPoint :=
  { ap.incrementSequenceNumber with
    queued := ap.createManagementFrame subtype AppType.voice destination :: ap.queued }

/-- `createFrameBody` of a disassociation takes the interface off the list. -/
def disAssociate (ap : WirelessAccessPoint) (mac : MACAddress6) : Exec WirelessAccessPoint := do
  let wie := ap.findIfaceByMAC mac
  Exec.assert (wie.address ≠ WirelessEtherInterface.unspecified.address)
  return (ap.remove wie.address).queueManagementFrame .disAssociation mac

def pass (ap : WirelessAccessPoint) (frame : WirelessEtherFrame) (passage : Passage) : WirelessAccessPoint :=
  { ap with passed := (frame, passage) :: ap.passed }

def acceptData (ap : WirelessAccessPoint) (data : WirelessEtherFrame) : Exec WirelessAccessPoint :=
  let ap := ap.addIface data.address2 .data data.sequenceNumber.toNat
  let sendFrame := { ap.createDataFrame data.address2 data.appType data.address3 with
    encapsulatedMsg := data.encapsulatedMsg }
  let ap := ap.incrementSequenceNumber
  if sendFrame.address1 = MACAddress6.broadcast then .ok (ap.pass sendFrame .both)
  else if (ap.findIfaceByMAC data.address3).address = WirelessEtherInterface.unspecified.address then
    .ok (ap.pass sendFrame .bridge)
  else do
    let ap ← if data.address3 ≠ MACAddress6.broadcast then do
        let dest := ap.findIfaceByMAC data.address3
        Exec.assert (dest.address ≠ WirelessEtherInterface.unspecified.address)
        pure (ap.addOrUpdate { dest with expire := dest.expire + ap.assEntryTimeout })
      else .ok ap
    return ap.pass sendFrame .outputQueue

def handleData (ap : WirelessAccessPoint) (data : WirelessEtherFrame) : Exec WirelessAccessPoint :=
  if ap.isFrameForMe data ∧ data.toDS = true ∧ data.fromDS = false then do
    let ap ← ap.scheduleAck ⟨data.address2⟩
    let chkIface := ap.findIfaceByMAC data.address2
    if chkIface.address = WirelessEtherInterface.unspecified.address ∨ chkIface.receiveMode = .authRspAckWait then
      return ap.queueManagementFrame .deAuthentication data.address2
    else if chkIface.receiveMode = .association ∨ chkIface.receiveMode = .assRspAckWait then
      ap.disAssociate data.address2
    else if chkIface.currentSequence ≠ data.sequenceNumber.toNat ∨ data.retry = false then
      ap.acceptData data
    else return ap
  else .ok ap

/-- `WEReceiveMode::finishFrameTx` renews the entry of the station that a data frame was sent to. -/
def finishFrameTx (ap : WirelessAccessPoint) (frame : WirelessEtherFrame) : WirelessAccessPoint :=
  let ap :=
    if frame.subtype = .data ∧ frame.address1 ≠ MACAddress6.broadcast then
      ap.addIface frame.address1 .data (ap.findIfaceByMAC frame.address1).currentSequence
    else ap
  { ap with readyFrame := none }

def handleAck (ap : WirelessAccessPoint) (ack : AckFrame) : WirelessAccessPoint :=
  match ap.readyFrame with
  | some outf =>
      if ack.address1 = ap.address then
        let iface := ap.findIfaceByMAC outf.address1
        let ap := if iface.receiveMode = .authRspAckWait then ap.addIface iface.address .association 0 else ap
        let ap := if iface.receiveMode = .assRspAckWait then ap.addIface iface.address .data 0 else ap
        ap.finishFrameTx outf
      else ap
  | none => ap

def updateConsecutiveFailedCount (ap : WirelessAccessPoint) (outputFrame : WirelessEtherFrame) :
    WirelessAccessPoint :=
  if outputFrame.subtype = .data then
    let dest := ap.findIfaceByMAC outputFrame.address1
    if dest.address ≠ WirelessEtherInterface.unspecified.address then
      if ap.consecFailedTransLimit ≤ dest.consecFailedTrans then ap.remove dest.address
      else ap.addOrUpdate { dest with consecFailedTrans := dest.consecFailedTrans + 1 }
    else ap
  else ap

end WirelessAccessPoint

end IPv6Suite
