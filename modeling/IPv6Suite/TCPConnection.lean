import IPv6Suite.TCPVirtualDataQueues

namespace IPv6Suite

open Lib

inductive TcpState where
  | init
  | closed
  | listen
  | synSent
  | synRcvd
  | established
  | closeWait
  | lastAck
  | finWait1
  | finWait2
  | closing
  | timeWait
deriving DecidableEq

inductive TCPEventCode where
  | ignore
  | openActive
  | openPassive
  | send
  | close
  | abort
  | status
  | rcvData
  | rcvAck
  | rcvSyn
  | rcvSynAck
  | rcvFin
  | rcvFinAck
  | rcvRst
  | rcvUnexpSyn
  | timeout2MSL
  | timeoutConnEstab
  | timeoutFinWait2
deriving DecidableEq

inductive TCPIndication where
  | data (msg : CMessage)
  | established
  | peerClosed
  | closed
  | connectionRefused
  | connectionReset
  | timedOut
  | status
deriving DecidableEq

/-- The persist and the keep-alive timer are never scheduled. -/
inductive TCPTimer where
  | the2MSLTimer
  | connEstabTimer
  | finWait2Timer
  | synRexmitTimer
  | rexmitTimer
  | delayedAckTimer
deriving DecidableEq

/-- The subclasses of `TCPBaseAlg`. -/
inductive TCPAlgorithm where
  | tahoe
  | reno
  | noCongestionControl
deriving DecidableEq

/-- What ends the simulation in the code of a connection: an assertion in a queue, the one on
the bytes to retransmit, another one, `opp_error`, a timer scheduled twice, a null pointer. -/
inductive TCPFault where
  | sendQueue (fault : Fault)
  | receiveQueue (fault : Fault)
  | nothingToRetransmit
  | assertFailed
  | oppError
  | alreadyScheduled
  | nullDeref
  | outOfFuel
deriving DecidableEq

namespace TCPFault

def fault : TCPFault → Fault
  | sendQueue fault => fault
  | receiveQueue fault => fault
  | nothingToRetransmit => .assertFailed
  | assertFailed => .assertFailed
  | oppError => .fatalError
  | alreadyScheduled => .fatalError
  | nullDeref => .nullDeref
  | outOfFuel => .fatalError

end TCPFault

abbrev TCPExec (α : Type) := Except TCPFault α

namespace TCPExec

def assert (p : Prop) [Decidable p] : TCPExec Unit :=
  if p then .ok () else .error .assertFailed

end TCPExec

/-- A connection with its state variables, also those of the algorithm, and what it has sent
to IP and to the application. A timer is a flag that tells whether it is scheduled; those for
the connection setup are null from ESTABLISHED on. Times and time-outs are left out but for the
start of a round-trip time measurement; `simTime` counts in ticks of 4 microseconds. -/
structure TCPConnection where
  fsm : TcpState
  tcpAlgorithm : TCPAlgorithm
  sendQueue : TCPVirtualDataSendQueue
  receiveQueue : TCPVirtualDataRcvQueue
  remoteSpecified : Bool
  the2MSLTimer : Bool
  connEstabTimer : Option Bool
  finWait2Timer : Bool
  synRexmitTimer : Option Bool
  rexmitTimer : Bool
  delayedAckTimer : Bool
  active : Bool
  sndMss : BitVec 32
  sndUna : BitVec 32
  sndNxt : BitVec 32
  sndMax : BitVec 32
  sndWnd : BitVec 32
  sndWl1 : BitVec 32
  sndWl2 : BitVec 32
  iss : BitVec 32
  rcvNxt : BitVec 32
  rcvWnd : BitVec 32
  irs : BitVec 32
  dupacks : BitVec 16
  synRexmitCount : Nat
  finAckRcvd : Bool
  sendFin : Bool
  sndFinSeq : BitVec 32
  finRcvd : Bool
  rcvFinSeq : BitVec 32
  delayedAcksEnabled : Bool
  nagleEnabled : Bool
  rexmitCount : Nat
  sndCwnd : BitVec 32
  ssthresh : BitVec 32
  rtseq : BitVec 32
  rtseqSendtime : Nat
  simTime : Nat
  toIP : List TCPSegment
  toAppl : List TCPIndication

namespace TCPConnection

/-- A new connection with the queues, the algorithm and the state block that the first OPEN
command creates. -/
def create (tcpAlgorithm : TCPAlgorithm) : TCPConnection where
  fsm := .init
  tcpAlgorithm
  sendQueue := .create
  receiveQueue := ⟨0, []⟩
  remoteSpecified := false
  the2MSLTimer := false
  connEstabTimer := some false
  finWait2Timer := false
  synRexmitTimer := some false
  rexmitTimer := false
  delayedAckTimer := false
  active := false
  sndMss := 1024
  sndUna := 0
  sndNxt := 0
  sndMax := 0
  sndWnd := 0
  sndWl1 := 0
  sndWl2 := 0
  iss := 0
  rcvNxt := 0
  rcvWnd := 128 * 1024
  irs := 0
  dupacks := 0
  synRexmitCount := 0
  finAckRcvd := false
  sendFin := false
  sndFinSeq := 0
  finRcvd := false
  rcvFinSeq := 0
  delayedAcksEnabled := false
  nagleEnabled := true
  rexmitCount := 0
  sndCwnd := match tcpAlgorithm with
    | .noCongestionControl => 0x7fffffff
    | .tahoe | .reno => 0
  ssthresh := 65535
  rtseq := 0
  rtseqSendtime := 0
  simTime := 0
  toIP := []
  toAppl := []

/-- `tcpMain->scheduleAt` on a timer that is not null -/
def scheduleTimeout (timer : Bool) : TCPExec Bool :=
  if timer then .error .alreadyScheduled else .ok true

def sendToIP (c : TCPConnection) (tcpseg : TCPSegment) : TCPConnection :=
  { c with toIP := c.toIP ++ [tcpseg] }

def sendIndicationToApp (c : TCPConnection) (code : TCPIndication) : TCPConnection :=
  { c with toAppl := c.toAppl ++ [code] }

def selectInitialSeqNum (c : TCPConnection) : TCPConnection :=
  let iss := BitVec.ofNat 32 c.simTime
  { c with
    iss
    sndUna := iss
    sndNxt := iss
    sndMax := iss
    sendQueue := c.sendQueue.init (iss + 1) }

def isSegmentAcceptable (c : TCPConnection) (tcpseg : TCPSegment) : Prop :=
  seqGE tcpseg.sequenceNo c.rcvNxt ∧
    seqLE (tcpseg.sequenceNo + BitVec.ofNat 32 tcpseg.payloadLength) (c.rcvNxt + c.rcvWnd)
deriving Decidable

end TCPConnection

namespace TCPBaseAlg

def ackSent (c : TCPConnection) : TCPConnection := { c with delayedAckTimer := false }

def startRexmitTimer (c : TCPConnection) : TCPExec TCPConnection := do
  let rexmitTimer ← TCPConnection.scheduleTimeout c.rexmitTimer
  return { c with rexmitCount := 0, rexmitTimer }

/-- If the retransmission timer is not running, it is scheduled. -/
def ensureRexmitTimer (c : TCPConnection) : TCPExec TCPConnection :=
  if c.rexmitTimer then .ok c else startRexmitTimer c

def dataSent (c : TCPConnection) (fromseq : BitVec 32) : TCPExec TCPConnection := do
  let c ← ensureRexmitTimer c
  return if c.rtseqSendtime = 0 then { c with rtseq := fromseq, rtseqSendtime := c.simTime } else c

end TCPBaseAlg

namespace TCPConnection

open TCPBaseAlg (ackSent dataSent)

/-- The SYN; `setPayloadLength` is not called. -/
def synSegment (c : TCPConnection) : TCPSegment :=
  { TCPSegment.create with sequenceNo := c.iss, synBit := true, window := c.rcvWnd }

def sendSyn (c : TCPConnection) : TCPExec TCPConnection :=
  if c.remoteSpecified then
    .ok (sendToIP { c with sndMax := c.iss + 1, sndNxt := c.iss + 1 } c.synSegment)
  else .error .oppError

def sendSynAck (c : TCPConnection) : TCPConnection :=
  sendToIP { c with sndMax := c.iss + 1, sndNxt := c.iss + 1 }
    { TCPSegment.create with
      sequenceNo := c.iss
      ackNo := c.rcvNxt
      synBit := true
      ackBit := true
      window := c.rcvWnd }

def rstSegment (seq : BitVec 32) : TCPSegment :=
  { TCPSegment.create with rstBit := true, sequenceNo := seq }

def rstAckSegment (seq ack : BitVec 32) : TCPSegment :=
  { TCPSegment.create with rstBit := true, ackBit := true, sequenceNo := seq, ackNo := ack }

def sendRst (c : TCPConnection) (seqNo : BitVec 32) : TCPConnection :=
  c.sendToIP (rstSegment seqNo)

def sendAck (c : TCPConnection) : TCPConnection :=
  ackSent (c.sendToIP
    { TCPSegment.create with
      ackBit := true
      sequenceNo := c.sndNxt
      ackNo := c.rcvNxt
      window := c.rcvWnd })

/-- `sendFin()`, which has the name of the flag `send_fin` -/
def sendFinSegment (c : TCPConnection) : TCPConnection :=
  ackSent (c.sendToIP
    { TCPSegment.create with
      finBit := true
      ackBit := true
      ackNo := c.rcvNxt
      sequenceNo := c.sndNxt
      window := c.rcvWnd })

def sendSegment (c : TCPConnection) (bytes : Nat) : TCPExec TCPConnection := do
  let tcpseg ← (c.sendQueue.createSegmentWithBytes c.sndNxt bytes).mapError .sendQueue
  let tcpseg := { tcpseg with ackNo := c.rcvNxt, ackBit := true, window := c.rcvWnd }
  let sndNxt := c.sndNxt + BitVec.ofNat 32 bytes
  return if c.sendFin ∧ sndNxt = c.sndFinSeq then
      sendToIP { c with sndNxt := c.sndFinSeq + 1 } { tcpseg with finBit := true }
    else sendToIP { c with sndNxt } tcpseg

/-- `while (bytesToSend>=snd_mss)`; the loop ends as `snd_mss` is not zero. -/
def sendWholeSegments (c : TCPConnection) (bytesToSend : Nat) : (fuel : Nat) → TCPExec TCPConnection
  | 0 => if bytesToSend < c.sndMss.toNat then .ok c else .error .outOfFuel
  | fuel + 1 =>
      if bytesToSend < c.sndMss.toNat then .ok c
      else do
        let c ← c.sendSegment c.sndMss.toNat
        c.sendWholeSegments (bytesToSend - c.sndMss.toNat) fuel

/-- Segments shorter than `snd_mss` are sent only if there is room for no other. -/
def sendBytes (c : TCPConnection) (bytesToSend : Nat) : TCPExec TCPConnection :=
  if bytesToSend ≤ c.sndMss.toNat then c.sendSegment bytesToSend
  else c.sendWholeSegments bytesToSend bytesToSend

/-- What the windows leave to be sent; a negative congestion window is no limit. -/
def effectiveWin (c : TCPConnection) (congestionWindow : Int) : Int :=
  let maxWindow : Int := c.sndWnd.toNat
  let maxWindow :=
    if 0 ≤ congestionWindow ∧ congestionWindow < maxWindow then congestionWindow else maxWindow
  maxWindow - (c.sndNxt - c.sndUna).toNat

def sendData (c : TCPConnection) (fullSegmentsOnly : Prop) [Decidable fullSegmentsOnly]
    (congestionWindow : Int) : TCPExec (Bool × TCPConnection) :=
  let c := { c with sndNxt := c.sndMax }
  let buffered := c.sendQueue.bytesAvailable c.sndNxt
  if buffered = 0 then .ok (false, c)
  else
    let effectiveWin := c.effectiveWin congestionWindow
    if effectiveWin ≤ 0 then .ok (false, c)
    else
      let bytesToSend := min effectiveWin.toNat buffered
      if fullSegmentsOnly ∧ bytesToSend < c.sndMss.toNat then .ok (false, c)
      else do
        let oldSndNxt := c.sndNxt
        let c ← c.sendBytes bytesToSend
        let c ← dataSent (ackSent { c with sndMax := c.sndNxt }) oldSndNxt
        return (true, c)

def retransmitOneSegment (c : TCPConnection) : TCPExec TCPConnection :=
  let c := { c with sndNxt := c.sndUna }
  let bytes := min c.sndMss.toNat (c.sndMax - c.sndNxt).toNat
  if bytes = 0 then .error .nothingToRetransmit
  else do
    let c ← c.sendSegment bytes
    return ackSent c

/-- `while (bytesToSend>0)` -/
def retransmitSegments (c : TCPConnection) (bytesToSend : Nat) :
    (fuel : Nat) → TCPExec TCPConnection
  | 0 => if bytesToSend = 0 then .ok c else .error .outOfFuel
  | fuel + 1 =>
      if bytesToSend = 0 then .ok c
      else do
        let bytes := min bytesToSend c.sndMss.toNat
        let c ← c.sendSegment bytes
        c.retransmitSegments (bytesToSend - bytes) fuel

def retransmitData (c : TCPConnection) : TCPExec TCPConnection :=
  let c := { c with sndNxt := c.sndUna }
  let bytesToSend := (c.sndMax - c.sndNxt).toNat
  if bytesToSend = 0 then .error .nothingToRetransmit
  else c.retransmitSegments bytesToSend bytesToSend

end TCPConnection

end IPv6Suite
