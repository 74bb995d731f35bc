import IPv6Suite.RTP
import IPv6Suite.Lib.CircularBuffer
import Mathlib.Algebra.Order.Ring.Rat
import Mathlib.Data.BitVec
import Mathlib.Data.Rat.Floor

namespace IPv6Suite

open Lib

/-- The tuple that travels with a packet -/
structure VoipFrame where
  timestamp : SimTime
  seqNo : BitVec 32
deriving DecidableEq

namespace VoipFrame

/-- The order of the tuples -/
def le (a b : VoipFrame) : Prop := a.timestamp < b.timestamp ∨ a.timestamp = b.timestamp ∧ a.seqNo.toNat ≤ b.seqNo.toNat

instance : DecidableRel le := fun _ _ => inferInstanceAs (Decidable (_ ∨ _ ∧ _))

instance : Std.Total le where
  total a b := by
    unfold le
    rcases lt_trichotomy a.timestamp b.timestamp with below | same | above
    · exact .inl (.inl below)
    · rcases Nat.le_total a.seqNo.toNat b.seqNo.toNat with le | ge
      · exact .inl (.inr ⟨same, le⟩)
      · exact .inr (.inr ⟨same.symm, ge⟩)
    · exact .inr (.inl above)

instance : IsTrans VoipFrame le where
  trans _ _ _ first second := by
    rcases first with below | ⟨same, le⟩
    · rcases second with below' | ⟨same', -⟩
      · exact .inl (lt_trans below below')
      · exact .inl (same' ▸ below)
    · rcases second with below' | ⟨same', le'⟩
      · exact .inl (same ▸ below')
      · exact .inr ⟨same.trans same', Nat.le_trans le le'⟩

end VoipFrame

/-- The tuple of a packet -/
def RTPPacket.frame (p : RTPPacket) : VoipFrame := ⟨p.timestamp, p.seqNo.setWidth 32⟩

/-- The parameters, as far as `initialize` accepts them -/
structure VoipParams where
  frameLength : SimTime
  bitrate : Nat
  framesPerPacket : Nat
  jitterDelay : SimTime
  frameLength_pos : 0 < frameLength
  frameLength_le : frameLength ≤ 1 / 10
  bitrate_le : bitrate ≤ 64000
  framesPerPacket_pos : 1 ≤ framesPerPacket
  framesPerPacket_le : framesPerPacket ≤ 100
  jitterDelay_nonneg : 0 ≤ jitterDelay

namespace VoipParams

def payloadLength (p : VoipParams) : BitVec 32 :=
  BitVec.ofInt 32 ⌈(p.bitrate : ℚ) * (p.frameLength * p.framesPerPacket) / 8⌉

/-- Twice what is played during the jitter delay -/
def bufferCapacity (p : VoipParams) : Nat :=
  (BitVec.ofInt 32 ⌊p.jitterDelay / (p.framesPerPacket * p.frameLength)⌋ * 2).toNat

end VoipParams

/-- The times can still be read after it has fired. -/
structure PlayoutTimer where
  contextPointer : BitVec 32
  isScheduled : Bool
  sendingTime : SimTime
  arrivalTime : SimTime
deriving DecidableEq

namespace PlayoutTimer

/-- A timer that fires is not scheduled any more when its function runs. -/
def fire (t : PlayoutTimer) : PlayoutTimer := { t with isScheduled := false }

/-- No message is scheduled for a time that has passed. -/
def reschedule (t : PlayoutTimer) (now arrivalTime : SimTime) : Exec PlayoutTimer :=
  if arrivalTime < now then .error .fatalError
  else .ok { t with isScheduled := true, sendingTime := now, arrivalTime }

end PlayoutTimer

/-- `frames` are the voice frames that were allocated and not deleted, by address. -/
structure RTPVoip where
  params : VoipParams
  frames : StdMap Nat VoipFrame (· < ·)
  cb : CircularBuffer VoipFrame
  misordered : CircularBuffer VoipFrame
  playoutTimer : Option PlayoutTimer
  networkDelay : SimTime
  db : List (BitVec 32)
  probableDropped : List (List (BitVec 32))
  lastPlayedFrame : VoipFrame
  discarded : Bool
  elossEvents : List (BitVec 32)
  elastReceived : BitVec 32
  elastExpected : BitVec 32
  elossEventsCount : BitVec 32
  elostPackets : BitVec 32
  emodelTimer : Option SimTime

/-- What the loss ratio of an interval is computed from -/
structure Evaluation where
  expected : BitVec 32
  received : BitVec 32
  elossEvents : List (BitVec 32)
deriving DecidableEq

namespace Evaluation

/-- `std::accumulate` from an `int` -/
def lost (e : Evaluation) : Int := e.elossEvents.sum.toInt

/-- The ratio of lost packets -/
def ppl (e : Evaluation) : ℚ := e.lost / e.expected.toNat

end Evaluation

namespace RTPVoip

def start (params : VoipParams) : RTPVoip where
  params := params
  frames := Std.TreeMap.empty
  cb := .empty params.bufferCapacity
  misordered := .empty 50
  playoutTimer := none
  networkDelay := 0
  db := []
  probableDropped := []
  lastPlayedFrame := ⟨0, 0⟩
  discarded := false
  elossEvents := []
  elastReceived := 0
  elastExpected := 0
  elossEventsCount := 0
  elostPackets := 0
  emodelTimer := none

def playoutTime (v : RTPVoip) (timestamp : SimTime) : SimTime := timestamp + v.networkDelay + v.params.jitterDelay

/-- `*pointer` -/
def frame (v : RTPVoip) : Option Nat → Exec VoipFrame
  | none => .error .nullDeref
  | some address => Exec.deref .useAfterFree v.frames[address]?

def deleteFrame (v : RTPVoip) : Option Nat → Exec RTPVoip
  | none => .ok v
  | some address =>
      if address ∈ v.frames then .ok { v with frames := v.frames.erase address } else .error .useAfterFree

def frameCountCalc (payloadLength : BitVec 32) (rtpData : RTPPacket) : Exec (BitVec 32) := do
  if payloadLength < rtpData.payloadLength then
    if payloadLength = 0 then throw .fatalError
    let frameCount := rtpData.payloadLength / payloadLength
    Exec.assert (1 < frameCount)
    return frameCount
  else return 1

/-- The packet that is sent, with the frame that goes with it -/
def attachData (v : RTPVoip) (address : Nat) (rtpData : RTPPacket) : RTPVoip × RTPPacket :=
  ({ v with frames := v.frames.insert address rtpData.frame },
    { rtpData with contextPointer := some address })

/-- What is counted since the last evaluation; the ranges of dropped packets are loss events too. -/
def evaluation (v : RTPVoip) (rme : RTPMemberEntry) : Evaluation where
  expected :=
    let expected := rme.cycles + rme.maxSeq.setWidth 32 - v.elastExpected
    -- the first number received is 0
    if v.elastExpected = 0 then expected + 1 else expected
  received := v.elastReceived
  elossEvents := v.elossEvents ++ v.probableDropped.map fun range => BitVec.ofNat 32 range.length

/-- The first call only sets the timer up. -/
def ecalculateRFactor (now : SimTime) (v : RTPVoip) (rme : RTPMemberEntry) : RTPVoip × Option Evaluation :=
  if v.emodelTimer.isNone then ({ v with emodelTimer := some (now + 30) }, none)
  else
    let e := v.evaluation rme
    ({ v with
        emodelTimer := some (now + 30)
        elossEventsCount := v.elossEventsCount + BitVec.ofNat 32 e.elossEvents.length
        elostPackets := v.elostPackets + e.elossEvents.sum
        elossEvents := []
        probableDropped := []
        elastReceived := 0
        elastExpected := rme.cycles + rme.maxSeq.setWidth 32 },
      some e)

def talkspurtBegin (v : RTPVoip) (now : SimTime) : Bool :=
  match v.playoutTimer with
  | none => true
  | some timer => !timer.isScheduled || decide (timer.sendingTime < now - v.networkDelay - v.params.jitterDelay)

def createTimer (v : RTPVoip) (now : SimTime) (ssrc : BitVec 32) (rme : RTPMemberEntry) : RTPVoip :=
  if v.playoutTimer.isNone then
    (ecalculateRFactor now { v with playoutTimer := some ⟨ssrc, false, 0, 0⟩ } rme).1
  else v

def beginTalkspurt (v : RTPVoip) (now timestamp : SimTime) : Exec RTPVoip := do
  let timer ← Exec.deref .nullDeref v.playoutTimer
  let timer ← timer.reschedule now (now + v.params.jitterDelay)
  return { v with networkDelay := now - timestamp, playoutTimer := some timer }

/-- What is done before the frame is looked at -/
def prepareTimer (v : RTPVoip) (now : SimTime) (ssrc : BitVec 32) (rme : RTPMemberEntry) (timestamp : SimTime) :
    Exec RTPVoip :=
  if v.talkspurtBegin now then (v.createTimer now ssrc rme).beginTalkspurt now timestamp
  else .ok (v.createTimer now ssrc rme)

/-- A discard after a discard continues its loss event. -/
def lossEvents (v : RTPVoip) : Exec (List (BitVec 32)) :=
  if v.discarded then do
    let back ← Exec.deref .outOfBounds v.elossEvents.getLast?
    return v.elossEvents.dropLast ++ [back + 1]
  else .ok (v.elossEvents ++ [1])

def countDiscard (v : RTPVoip) (seqNo : BitVec 32) : Exec RTPVoip := do
  let elossEvents ← v.lossEvents
  return { v with db := v.db ++ [seqNo], elossEvents, discarded := true }

/-- The earliest frame makes room. -/
def replaceFront (v : RTPVoip) (now : SimTime) (thisFrame : VoipFrame) : Exec RTPVoip := do
  let cb := v.cb.sort VoipFrame.le
  let discard ← Exec.deref .assertFailed cb.elements.head?
  Exec.assert (now < v.playoutTime discard.timestamp)
  let v ← v.countDiscard discard.seqNo
  return { v with cb := cb.push_back thisFrame }

def bufferFrame (v : RTPVoip) (now : SimTime) (thisFrame : VoipFrame) : Exec RTPVoip := do
  let timer ← Exec.deref .nullDeref v.playoutTimer
  if v.playoutTime thisFrame.timestamp < timer.arrivalTime then
    v.countDiscard thisFrame.seqNo
  else if v.cb.full then
    v.replaceFront now thisFrame
  else
    return { v with cb := v.cb.push_back thisFrame, discarded := false, elastReceived := v.elastReceived + 1 }

def sorted (v : RTPVoip) : RTPVoip := { v with cb := v.cb.sort VoipFrame.le }

/-- Only packets of one frame pass the assertion. -/
def processRTPData (now : SimTime) (v : RTPVoip) (rtpData : RTPPacket) (rme : RTPMemberEntry) : Exec RTPVoip := do
  let v ← v.prepareTimer now rtpData.ssrc rme rtpData.timestamp
  let frameCount ← frameCountCalc v.params.payloadLength rtpData
  Exec.assert (frameCount = 1)
  let thisFrame ← v.frame rtpData.contextPointer
  let v ← v.bufferFrame now thisFrame
  let v ← v.deleteFrame rtpData.contextPointer
  return v.sorted

/-- The numbers from that after the highest one up to the one received. It is called for a number that has not
wrapped. -/
def handleDroppedPackets (v : RTPVoip) (s : RTPMemberEntry) (udelta : BitVec 16) : RTPVoip :=
  let origSeq := udelta + s.maxSeq
  let newrange := (List.range' (s.maxSeq.toNat + 1) (origSeq.toNat - (s.maxSeq.toNat + 1))).map (BitVec.ofNat 32)
  { v with probableDropped := v.probableDropped ++ [newrange] }

/-- The first range that has the number loses it, and is removed when it was the last. -/
def notDropped (seqNo : BitVec 32) : List (List (BitVec 32)) → List (List (BitVec 32))
  | [] => []
  | range :: rest =>
      if seqNo ∈ range then
        if range.erase seqNo = [] then rest else range.erase seqNo :: rest
      else range :: notDropped seqNo rest

def handleMisorderedPackets (v : RTPVoip) (s : RTPMemberEntry) (rtpData : RTPPacket) :
    Exec (RTPVoip × RTPMemberEntry × RTPPacket) := do
  if rtpData.frame ∈ v.misordered.elements then
    -- a duplicate
    let frameCount ← frameCountCalc v.params.payloadLength rtpData
    let v ← v.deleteFrame rtpData.contextPointer
    -- what follows the frame was not allocated
    if 1 < frameCount then throw .outOfBounds
    return (v, { s with received := s.received - 1 }, { rtpData with contextPointer := none })
  else
    let frameCount ← frameCountCalc v.params.payloadLength rtpData
    Exec.assert (frameCount = 1)
    let thisFrame ← v.frame rtpData.contextPointer
    return ({ v with
      probableDropped := notDropped thisFrame.seqNo v.probableDropped
      misordered := v.misordered.push_back thisFrame }, s, rtpData)

def playoutBufferedPacket (now : SimTime) (v : RTPVoip) : Exec (RTPVoip × VoipFrame) := do
  Exec.assert (v.cb.elements ≠ [])
  let cb := v.cb.sort VoipFrame.le
  let thisFrame ← Exec.deref .outOfBounds cb.elements.head?
  let cb := cb.pop_front
  let v := { v with cb, discarded := false, lastPlayedFrame := thisFrame }
  match cb.elements.head? with
  | none => return (v, thisFrame)
  | some next =>
      let timer ← Exec.deref .nullDeref v.playoutTimer
      let timer ← timer.reschedule now (v.playoutTime next.timestamp)
      return ({ v with playoutTimer := some timer }, thisFrame)

/-- Members stay when they leave: their statistics are still needed. -/
def hooks : RTPHooks RTPVoip where
  handleDroppedPackets v s udelta := .ok (v.handleDroppedPackets s udelta)
  handleMisorderedPackets := handleMisorderedPackets
  processRTPData := processRTPData
  processGoodBye memberSet _ := memberSet

def playout (now : SimTime) (rtp : RTP RTPVoip) : Exec (RTP RTPVoip × VoipFrame) := do
  let v := { rtp.derived with playoutTimer := rtp.derived.playoutTimer.map PlayoutTimer.fire }
  let (v, frame) ← v.playoutBufferedPacket now
  return ({ rtp with derived := v }, frame)

/-- The entry that is evaluated is that of the playout timer. -/
def evaluate (now : SimTime) (rtp : RTP RTPVoip) : Exec (RTP RTPVoip × Option Evaluation) :=
  match rtp.derived.playoutTimer with
  | none => .ok (rtp, none)
  | some timer => do
      let rme ← Exec.deref .useAfterFree rtp.memberSet[timer.contextPointer]?
      let (v, evaluation) := rtp.derived.ecalculateRFactor now rme
      return ({ rtp with derived := v }, evaluation)

end RTPVoip

end IPv6Suite
