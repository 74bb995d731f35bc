import IPv6Suite.NDEntry
import IPv6Suite.Lib.Exec

namespace IPv6Suite

open Lib

structure RTPMemberEntry where
  sender : Bool
  maxSeq : BitVec 16
  cycles : BitVec 32
  badSeq : BitVec 32
  received : BitVec 32
  expectedPrior : BitVec 32
  receivedPrior : BitVec 32
  transit : SimTime
  jitter : SimTime
  lastSR : SimTime
deriving DecidableEq

/-- `contextPointer` is the address of a voice frame, if there is one. -/
structure RTPPacket where
  ssrc : BitVec 32
  seqNo : BitVec 16
  timestamp : SimTime
  payloadLength : BitVec 32
  contextPointer : Option Nat
deriving DecidableEq

structure RTCPReportBlock where
  ssrc : BitVec 32
  fractionLost : BitVec 16
  cumPacketsLost : BitVec 32
  seqNoReceived : BitVec 32
  jitter : SimTime
  lastSR : SimTime
  delaySinceLastSR : SimTime
deriving DecidableEq

inductive RTCPKind where
  | senderReport (timestamp : SimTime)
  | receiverReport
  | goodBye
  | sdes
deriving DecidableEq

structure RTCPPacket where
  ssrc : BitVec 32
  kind : RTCPKind
deriving DecidableEq

abbrev MemberSet := StdMap (BitVec 32) RTPMemberEntry (· < ·)

def RTP_SEQ_MOD : Nat := 65536

def MAX_DROPOUT : Nat := 3000

def MAX_MISORDER : Nat := 100

def init_seq (s : RTPMemberEntry) (seq : BitVec 16) : RTPMemberEntry :=
  { s with
    maxSeq := seq
    badSeq := BitVec.ofNat 32 (RTP_SEQ_MOD + 1)
    cycles := 0
    received := 0
    receivedPrior := 0
    expectedPrior := 0
    jitter := 0
    transit := 0
    lastSR := 0 }

/-- The virtual functions of `RTP`, over the members `σ` of a derived class. What they may change
of the entry and of the packet is returned. -/
structure RTPHooks (σ : Type) where
  handleDroppedPackets : σ → RTPMemberEntry → BitVec 16 → Exec σ
  handleMisorderedPackets : σ → RTPMemberEntry → RTPPacket → Exec (σ × RTPMemberEntry × RTPPacket)
  processRTPData : SimTime → σ → RTPPacket → RTPMemberEntry → Exec σ
  processGoodBye : MemberSet → BitVec 32 → MemberSet

variable {σ : Type}

/-- The last component is whether the packet is valid. -/
def update_seq (hooks : RTPHooks σ) (rtp : σ) (s : RTPMemberEntry) (rtpData : RTPPacket) :
    Exec (σ × RTPMemberEntry × RTPPacket × Bool) := do
  let seq := rtpData.seqNo
  let udelta := seq - s.maxSeq
  if udelta.toNat < MAX_DROPOUT then
    -- in order, with permissible gap; no drop is recorded when the number wraps
    if seq < s.maxSeq then
      return (rtp, { s with cycles := s.cycles + BitVec.ofNat 32 RTP_SEQ_MOD, maxSeq := seq, received := s.received + 1 },
        rtpData, true)
    else
      let rtp ← if 1 < udelta.toNat then hooks.handleDroppedPackets rtp s udelta else pure rtp
      return (rtp, { s with maxSeq := seq, received := s.received + 1 }, rtpData, true)
  else if udelta.toNat ≤ RTP_SEQ_MOD - MAX_MISORDER then
    Exec.assert (seq.setWidth 32 ≠ s.badSeq)
    return (rtp, { s with badSeq := (seq + 1).setWidth 32 }, rtpData, false)
  else
    -- duplicate or reordered packet
    let (rtp, s, rtpData) ← hooks.handleMisorderedPackets rtp s rtpData
    return (rtp, { s with received := s.received + 1 }, rtpData, true)

/-- The transit time and the jitter of the packets received so far -/
def RTPMemberEntry.collect (now : SimTime) (rme : RTPMemberEntry) (timestamp : SimTime) : RTPMemberEntry :=
  let transit := now - timestamp
  let instJitter := transit - rme.transit
  let instJitter := if instJitter < 0 then -instJitter else instJitter
  { rme with transit, jitter := rme.jitter + 1 / 16 * (instJitter - rme.jitter) }

structure RTP (σ : Type) where
  ssrc : BitVec 32
  memberSet : MemberSet
  derived : σ

namespace RTP

/-- `raw` is what the memory of a new entry holds: its constructor leaves the entry as it is. -/
def memberEntry (rtp : RTP σ) (raw : RTPMemberEntry) (ssrc : BitVec 32) : RTPMemberEntry :=
  rtp.memberSet[ssrc]?.getD { raw with sender := false }

def start (ssrc : BitVec 32) (raw : RTPMemberEntry) (derived : σ) : RTP σ where
  ssrc := ssrc
  memberSet := Std.TreeMap.empty.insert ssrc { init_seq { raw with sender := false } 0 with badSeq := 0 }
  derived := derived

/-- The first packet of a member makes it a sender. -/
def updateMember (hooks : RTPHooks σ) (raw : RTPMemberEntry) (rtp : RTP σ) (rtpData : RTPPacket) :
    Exec (σ × RTPMemberEntry × RTPPacket × Bool) :=
  let rme := rtp.memberEntry raw rtpData.ssrc
  if rme.sender then update_seq hooks rtp.derived rme rtpData
  else .ok (rtp.derived, init_seq { rme with sender := true } rtpData.seqNo, rtpData, true)

def processRTP (hooks : RTPHooks σ) (now : SimTime) (raw : RTPMemberEntry) (rtp : RTP σ) (rtpData : RTPPacket) :
    Exec (RTP σ) := do
  let ssrc := rtpData.ssrc
  let (derived, rme, rtpData, valid) ← rtp.updateMember hooks raw rtpData
  if valid then
    let derived ← hooks.processRTPData now derived rtpData rme
    return { rtp with derived, memberSet := rtp.memberSet.insert ssrc (rme.collect now rtpData.timestamp) }
  else
    return { rtp with derived, memberSet := rtp.memberSet.insert ssrc rme }

def processReports (memberSet : MemberSet) (rme : RTPMemberEntry) (rep : RTCPPacket) : MemberSet :=
  match rep.kind with
  | .senderReport timestamp => memberSet.insert rep.ssrc { rme with lastSR := timestamp }
  | .receiverReport | .goodBye | .sdes => memberSet

def processRTCP (hooks : RTPHooks σ) (raw : RTPMemberEntry) (rtp : RTP σ) (rtcp : RTCPPacket) : RTP σ :=
  let rme := rtp.memberEntry raw rtcp.ssrc
  let memberSet := rtp.memberSet.insert rtcp.ssrc rme
  match rtcp.kind with
  | .goodBye => { rtp with memberSet := hooks.processGoodBye memberSet rtcp.ssrc }
  | .senderReport _ | .receiverReport => { rtp with memberSet := processReports memberSet rme rtcp }
  | .sdes => { rtp with memberSet }

/-- The number of packets expected: `baseSeq` is assumed to be 0. -/
def extended (rme : RTPMemberEntry) : BitVec 32 := rme.cycles + rme.maxSeq.setWidth 32 + 1

def fractionLost (expectedInt receivedInt : BitVec 32) : BitVec 16 :=
  let lostInt := expectedInt - receivedInt
  if expectedInt = 0 ∨ lostInt = 0 then 0 else ((lostInt <<< 8) / expectedInt).setWidth 16

def reportBlock (now : SimTime) (ssrc : BitVec 32) (rme : RTPMemberEntry) : RTCPReportBlock where
  ssrc := ssrc
  fractionLost := fractionLost (extended rme - rme.expectedPrior) (rme.received - rme.receivedPrior)
  cumPacketsLost := extended rme - rme.received
  seqNoReceived := extended rme
  jitter := rme.jitter
  lastSR := rme.lastSR
  delaySinceLastSR := now - rme.lastSR

/-- The members reports are about: the senders other than this module -/
def reportsAbout (rtp : RTP σ) (ssrc : BitVec 32) (rme : RTPMemberEntry) : Bool := rme.sender && ssrc != rtp.ssrc

def fillReports (now : SimTime) (rtp : RTP σ) : List RTCPReportBlock × RTP σ :=
  ((rtp.memberSet.toList.filter fun member => rtp.reportsAbout member.1 member.2).map
      fun member => reportBlock now member.1 member.2,
    { rtp with
      memberSet := rtp.memberSet.map fun ssrc rme =>
        if rtp.reportsAbout ssrc rme then { rme with expectedPrior := extended rme, receivedPrior := rme.received }
        else rme })

/-- What the first packet sent changes -/
def becomeSender (raw : RTPMemberEntry) (rtp : RTP σ) : RTP σ :=
  { rtp with memberSet := rtp.memberSet.insert rtp.ssrc { rtp.memberEntry raw rtp.ssrc with sender := true } }

/-- The functions as `RTP` has them; the statistics they keep are left out. -/
def hooks : RTPHooks Unit where
  handleDroppedPackets rtp _ _ := .ok rtp
  handleMisorderedPackets rtp s rtpData := .ok (rtp, s, rtpData)
  processRTPData _ rtp _ _ := .ok rtp
  processGoodBye memberSet ssrc := memberSet.erase ssrc

inductive Event where
  | rtp (now : SimTime) (raw : RTPMemberEntry) (rtpData : RTPPacket)
  | rtcp (raw : RTPMemberEntry) (rtcp : RTCPPacket)
  | rtcpTimeout (now : SimTime)
  | rtpTimeout (raw : RTPMemberEntry)

def step (hooks : RTPHooks σ) (rtp : RTP σ) : Event → Exec (RTP σ)
  | .rtp now raw rtpData => rtp.processRTP hooks now raw rtpData
  | .rtcp raw rtcp => .ok (rtp.processRTCP hooks raw rtcp)
  | .rtcpTimeout now => .ok (rtp.fillReports now).2
  | .rtpTimeout raw => .ok (rtp.becomeSender raw)

end RTP

end IPv6Suite
