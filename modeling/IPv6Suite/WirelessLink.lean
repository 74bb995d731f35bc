import IPv6Suite.Lib.DuplicateFilter
import IPv6Suite.Lib.Ensures
import IPv6Suite.Lib.Machine
import IPv6Suite.WirelessReceiveModes
import Mathlib

namespace IPv6Suite

open Lib

/-! ### Duplicate detection of the receivers -/

namespace WirelessEtherFrame

def copy (frame : WirelessEtherFrame) (msg : Nat) : Copy Nat Int :=
  ⟨msg, frame.sequenceNumber.toNat, frame.retry⟩

def messages (frames : List WirelessEtherFrame) : List Nat := frames.filterMap (·.encapsulatedMsg)

variable {frame : WirelessEtherFrame} {frames : List WirelessEtherFrame} {msg : Nat}

theorem messages_cons (carries : frame.encapsulatedMsg = some msg) :
    messages (frame :: frames) = msg :: messages frames := by
  simp [messages, carries]

end WirelessEtherFrame

/-- What reached the station from the access point and the access point from the station is listed, and what was
sent, the latest first. -/
structure WirelessLink where
  station : WirelessStation
  ap : WirelessAccessPoint
  downSent : List WirelessEtherFrame
  downArrived : List WirelessEtherFrame
  upSent : List WirelessEtherFrame
  upArrived : List WirelessEtherFrame
deriving DecidableEq

/-- The access point sends to the station (`down`) and the station to the access point (`up`). An acknowledgement
is sent when its timer expires. The other stations send frames, and their entries come and go. -/
inductive WirelessEvent where
  | down (frame : WirelessEtherFrame) (lost weak : Bool)
  | up (frame : WirelessEtherFrame) (lost : Bool)
  | stationAck (lost : Bool)
  | apAck (lost : Bool)
  | stationTimeout
  | apTimeout (discarded : Bool)
  | otherData (frame : WirelessEtherFrame)
  | otherIface (mac : MACAddress6) (receiveMode : ReceiveMode) (sequenceNo : Int)
  | otherLeaves (mac : MACAddress6)
  | elapse (d : SimTime)

namespace WirelessLink

/-- While its acknowledgement waits to be sent a module receives nothing: what arrives then is a collision. -/
def step (l : WirelessLink) : WirelessEvent → Exec WirelessLink
  | .down frame lost weak =>
      let l := { l with
        ap := { l.ap with readyFrame := some frame }
        downSent := frame :: l.downSent }
      if lost = true ∨ l.station.sendAckTimer.isSome = true then .ok l
      else do
        let station ← l.station.handleData frame weak
        return { l with station, downArrived := frame :: l.downArrived }
  | .up frame lost =>
      let l := { l with
        station := { l.station with readyFrame := some frame }
        upSent := frame :: l.upSent }
      if lost = true ∨ l.ap.sendAckTimer.isSome = true then .ok l
      else do
        let ap ← l.ap.handleData frame
        return { l with ap, upArrived := frame :: l.upArrived }
  | .stationAck lost =>
      match l.station.sendAckTimer with
      | some ack =>
          let l := { l with station := { l.station with sendAckTimer := none } }
          .ok (if lost then l else { l with ap := l.ap.handleAck ack })
      | none => .ok l
  | .apAck lost =>
      match l.ap.sendAckTimer with
      | some ack =>
          let l := { l with ap := { l.ap with sendAckTimer := none } }
          .ok (if lost then l else { l with station := l.station.handleAck ack })
      | none => .ok l
  | .stationTimeout => .ok { l with station := { l.station with readyFrame := none } }
  | .apTimeout discarded =>
      match l.ap.readyFrame with
      | some frame =>
          let ap := { l.ap with readyFrame := none }
          .ok { l with ap := if discarded then ap.updateConsecutiveFailedCount frame else ap }
      | none => .ok l
  | .otherData frame =>
      if l.ap.sendAckTimer.isSome = true then .ok l
      else do
        let ap ← l.ap.handleData frame
        return { l with ap }
  | .otherIface mac receiveMode sequenceNo => .ok { l with ap := l.ap.addIface mac receiveMode sequenceNo }
  | .otherLeaves mac => .ok { l with ap := l.ap.remove mac }
  | .elapse d => .ok { l with ap := { l.ap with simTime := l.ap.simTime + d } }

/-- The station is associated with the access point, which holds it in data mode. -/
structure Associated (l : WirelessLink) : Prop where
  specified : l.station.address ≠ MACAddress6.unspecified
  unicast : l.station.address ≠ MACAddress6.broadcast
  peer : l.station.associateAP.address = l.ap.address
  mode : (l.ap.findIfaceByMAC l.station.address).receiveMode = .data

/-- How a sender continues: another copy of a frame repeats the sequence number with the retry flag set, and
a frame does not have the sequence number of the frame sent before it. -/
structure Continues (sent : List WirelessEtherFrame) (frame : WirelessEtherFrame) : Prop where
  again : ∀ earlier ∈ sent, earlier.encapsulatedMsg = frame.encapsulatedMsg →
    frame.sequenceNumber = earlier.sequenceNumber ∧ frame.retry = true
  differs : ∀ last ∈ sent.head?, last.encapsulatedMsg ≠ frame.encapsulatedMsg →
    frame.sequenceNumber ≠ last.sequenceNumber

/-- A unicast data frame of the access point for the station -/
structure IsDown (l : WirelessLink) (frame : WirelessEtherFrame) : Prop where
  data : frame.subtype = .data
  fromDS : frame.toDS = false ∧ frame.fromDS = true
  receiver : frame.address1 = l.station.address
  transmitter : frame.address2 = l.ap.address
  message : frame.encapsulatedMsg.isSome = true
  continues : Continues l.downSent frame

/-- A data frame of the station for the access point -/
structure IsUp (l : WirelessLink) (frame : WirelessEtherFrame) : Prop where
  data : frame.subtype = .data
  toDS : frame.toDS = true ∧ frame.fromDS = false
  receiver : frame.address1 = l.ap.address
  transmitter : frame.address2 = l.station.address
  message : frame.encapsulatedMsg.isSome = true
  continues : Continues l.upSent frame

def Admits (l : WirelessLink) (e : WirelessEvent) : Prop :=
  l.Associated ∧
    match e with
    | .down frame _ _ => l.IsDown frame
    | .up frame _ => l.IsUp frame
    | .otherData frame => frame.address2 ≠ l.station.address
    | .otherIface mac _ _ => mac ≠ l.station.address
    | .otherLeaves mac => mac ≠ l.station.address
    | _ => True

/-- Nothing has been sent, acknowledged or passed on since the station associated. -/
structure Fresh (l : WirelessLink) : Prop where
  acks : l.station.acks = []
  upper : l.station.upper = []
  apAcks : l.ap.acks = []
  passed : l.ap.passed = []
  sent : l.downSent = [] ∧ l.upSent = []
  arrived : l.downArrived = [] ∧ l.upArrived = []

/-- The frames of the station that the access point has passed on -/
def passedUp (l : WirelessLink) : List WirelessEtherFrame :=
  (l.ap.passed.map Prod.fst).filter (·.address3 = l.station.address)

def downFilter (l : WirelessLink) : DuplicateFilter Nat Int :=
  ⟨l.station.associateAP.receivedSequence, WirelessEtherFrame.messages l.downArrived, l.station.upper⟩

/-- The duplicate detection of the access point for the station -/
def upFilter (l : WirelessLink) : DuplicateFilter Nat Int :=
  ⟨(l.ap.findIfaceByMAC l.station.address).currentSequence, WirelessEtherFrame.messages l.upArrived,
    WirelessEtherFrame.messages l.passedUp⟩

/-- Every copy that arrived has been acknowledged, and every frame of which one arrived passed on once. -/
structure Reliable (l : WirelessLink) : Prop where
  downAcknowledged : l.station.acks.count ⟨l.ap.address⟩ = l.downArrived.length
  downOnce : ∀ msg, l.station.upper.count msg =
    if msg ∈ WirelessEtherFrame.messages l.downArrived then 1 else 0
  upAcknowledged : l.ap.acks.count ⟨l.station.address⟩ = l.upArrived.length
  upOnce : ∀ msg, (WirelessEtherFrame.messages l.passedUp).count msg =
    if msg ∈ WirelessEtherFrame.messages l.upArrived then 1 else 0

end WirelessLink

end IPv6Suite
