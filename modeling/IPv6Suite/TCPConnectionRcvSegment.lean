import IPv6Suite.TCPAlgorithm

namespace IPv6Suite

open Lib

namespace TCPVirtualDataRcvQueue

/-- `while ((msg=extractBytesUpTo(seq))!=NULL)`; each round but the last takes bytes from the
first region. -/
def extractMessages (q : TCPVirtualDataRcvQueue) (seq : BitVec 32) :
    (fuel : Nat) → Exec (List CMessage × TCPVirtualDataRcvQueue)
  | 0 => .ok ([], q)
  | fuel + 1 => do
      let (msg, q) ← q.extractBytesUpTo seq
      match msg with
      | none => return ([], q)
      | some msg => do
          let (msgs, q) ← q.extractMessages seq fuel
          return (msg :: msgs, q)

end TCPVirtualDataRcvQueue

namespace TCPConnection

/-- The answer to a segment that belongs to no connection. -/
def segmentArrivalWhileClosed (tcpseg : TCPSegment) : Option TCPSegment :=
  if tcpseg.rstBit then none
  else if ¬ tcpseg.ackBit then
    some (rstAckSegment 0 (tcpseg.sequenceNo + BitVec.ofNat 32 tcpseg.payloadLength))
  else some (rstSegment tcpseg.ackNo)

/-- A connection in SYN_RCVD has these timers. -/
def startSynRexmitTimer (c : TCPConnection) : TCPExec TCPConnection :=
  match c.synRexmitTimer with
  | none => .error .nullDeref
  | some _ => .ok { c with synRexmitCount := 0, synRexmitTimer := some true }

/-- `state->rcv_nxt = receiveQueue->insertBytesFromSegment(tcpseg)` -/
def receiveBytes (c : TCPConnection) (tcpseg : TCPSegment) : TCPConnection :=
  let inserted := c.receiveQueue.insertBytesFromSegment tcpseg
  { c with rcvNxt := inserted.1, receiveQueue := inserted.2 }

/-- The payload of a SYN goes to the queue only; `rcv_nxt` stays. -/
def insertBytes (c : TCPConnection) (tcpseg : TCPSegment) : TCPConnection :=
  { c with
    receiveQueue := if 0 < tcpseg.payloadLength then
        (c.receiveQueue.insertBytesFromSegment tcpseg).2
      else c.receiveQueue }

/-- Forking and the socket pair are left out. -/
def processSegmentInListen (c : TCPConnection) (tcpseg : TCPSegment) :
    TCPExec (TCPEventCode × TCPConnection) :=
  if tcpseg.rstBit then .ok (.ignore, c)
  else if tcpseg.ackBit then .ok (.ignore, c.sendRst tcpseg.ackNo)
  else if tcpseg.synBit then do
    let c := { c with
      remoteSpecified := true
      rcvNxt := tcpseg.sequenceNo + 1
      irs := tcpseg.sequenceNo
      receiveQueue := c.receiveQueue.init (tcpseg.sequenceNo + 1) }
    let c := c.selectInitialSeqNum
    let c := { c with sndWnd := tcpseg.window, sndWl1 := tcpseg.sequenceNo, sndWl2 := c.iss }
    let c ← c.sendSynAck.startSynRexmitTimer
    match c.connEstabTimer with
    | none => throw .nullDeref
    | some _ => return (.rcvSyn, { c with connEstabTimer := some true }.insertBytes tcpseg)
  else .ok (.ignore, c)

def acceptSynAck (c : TCPConnection) (tcpseg : TCPSegment) : TCPExec TCPConnection :=
  if tcpseg.ackBit then do
    let sendQueue ← (c.sendQueue.discardUpTo tcpseg.ackNo).mapError .sendQueue
    return { c with
      sndUna := tcpseg.ackNo
      sendQueue
      sndWnd := tcpseg.window
      sndWl1 := tcpseg.sequenceNo
      sndWl2 := tcpseg.ackNo }
  else .ok c

def processSegmentInSynSent (c : TCPConnection) (tcpseg : TCPSegment) :
    TCPExec (TCPEventCode × TCPConnection) :=
  if tcpseg.ackBit ∧ (seqLE tcpseg.ackNo c.iss ∨ seqGreater tcpseg.ackNo c.sndNxt) then
    .ok (.ignore, c.sendRst tcpseg.ackNo)
  else if tcpseg.rstBit then
    if tcpseg.ackBit then .ok (.rcvRst, c.sendIndicationToApp .connectionReset)
    else .ok (.ignore, c)
  else if tcpseg.synBit then do
    let c := { c with
      rcvNxt := tcpseg.sequenceNo + 1
      irs := tcpseg.sequenceNo
      receiveQueue := c.receiveQueue.init (tcpseg.sequenceNo + 1) }
    let c ← c.acceptSynAck tcpseg
    let c := { c with remoteSpecified := true }
    if seqGreater c.sndUna c.iss then
      let c ← TCPBaseAlg.established (if 0 < tcpseg.payloadLength then c.receiveBytes tcpseg else c) true
      return (.rcvSynAck, c)
    else do
      let c ← { c with sndMax := c.iss, sndNxt := c.iss }.sendSynAck.startSynRexmitTimer
      return (.rcvSyn, c.insertBytes tcpseg)
  else .ok (.ignore, c)

def processRstInSynReceived (c : TCPConnection) : TCPExec (TCPEventCode × TCPConnection) := do
  let sendQueue ← (c.sendQueue.discardUpTo c.sendQueue.bufferEndSeq).mapError .sendQueue
  let c := { c with sendQueue }
  return (.rcvRst, if c.active then c.sendIndicationToApp .connectionRefused else c)

/-- The second check, of a segment with the RST bit -/
def processRst (c : TCPConnection) : TCPExec (TCPEventCode × TCPConnection) :=
  match c.fsm with
  | .synRcvd => c.processRstInSynReceived
  | .established | .finWait1 | .finWait2 | .closeWait =>
      .ok (.rcvRst, c.sendIndicationToApp .connectionReset)
  | .closing | .lastAck | .timeWait => .ok (.rcvRst, c.sendIndicationToApp .closed)
  | .init | .closed | .listen | .synSent => .error .assertFailed

/-- What an acknowledgement in the window changes before the algorithm is notified. -/
def acceptAck (c : TCPConnection) (tcpseg : TCPSegment) : TCPExec TCPConnection := do
  let c := { c with sndUna := tcpseg.ackNo }
  let c := if seqLess c.sndNxt c.sndUna then { c with sndNxt := c.sndUna } else c
  let finAcked : Bool := c.sendFin && tcpseg.ackNo == c.sndFinSeq + 1
  let discardUpToSeq := if finAcked then c.sndUna - 1 else c.sndUna
  let sendQueue ← (c.sendQueue.discardUpTo discardUpToSeq).mapError .sendQueue
  let c := { c with sendQueue, finAckRcvd := c.finAckRcvd || finAcked }
  return if seqLess c.sndWl1 tcpseg.sequenceNo ∨
      c.sndWl1 = tcpseg.sequenceNo ∧ seqLE c.sndWl2 tcpseg.ackNo then
    { c with sndWnd := tcpseg.window, sndWl1 := tcpseg.sequenceNo, sndWl2 := tcpseg.ackNo }
  else c

/-- False means that the segment is dropped. -/
def processAckInEstabEtc (c : TCPConnection) (tcpseg : TCPSegment) :
    TCPExec (Bool × TCPConnection) :=
  if seqGE c.sndUna tcpseg.ackNo then
    if c.sndUna = tcpseg.ackNo ∧ tcpseg.payloadLength = 0 ∧ c.sndUna ≠ c.sndMax then do
      let c ← TCPAlgorithm.receivedDuplicateAck { c with dupacks := c.dupacks + 1 }
      return (true, c)
    else .ok (true, { c with dupacks := 0 })
  else if seqLE tcpseg.ackNo c.sndMax then do
    let c ← c.acceptAck tcpseg
    let c ← TCPAlgorithm.receivedDataAck c
    return (true, { c with dupacks := 0 })
  else do
    TCPExec.assert (seqGreater tcpseg.ackNo c.sndMax)
    return (false, { TCPBaseAlg.receivedAckForDataNotYetSent c with dupacks := 0 })

/-- How the fifth check ends: with an event, or with one to go on with. -/
inductive AckCheck where
  | drop (event : TCPEventCode) (c : TCPConnection)
  | proceed (event : TCPEventCode) (c : TCPConnection)

def AckCheck.connection : AckCheck → TCPConnection
  | drop _ c => c
  | proceed _ c => c

/-- The fifth check, of the ACK field -/
def processAck (c : TCPConnection) (tcpseg : TCPSegment) : TCPExec AckCheck :=
  match c.fsm with
  | .synRcvd =>
      if ¬ seqLE c.sndUna tcpseg.ackNo ∨ ¬ seqLE tcpseg.ackNo c.sndNxt then
        .ok (.drop .ignore (c.sendRst tcpseg.ackNo))
      else do
        let c ← TCPBaseAlg.established c false
        let (ok, c) ← c.processAckInEstabEtc tcpseg
        return if ok then .proceed .rcvAck c else .drop .ignore c
  | .established | .finWait2 | .closeWait => do
      let (ok, c) ← c.processAckInEstabEtc tcpseg
      return if ok then .proceed .ignore c else .drop .ignore c
  | .finWait1 => do
      let (ok, c) ← c.processAckInEstabEtc tcpseg
      return if ok then .proceed (if c.finAckRcvd then .rcvAck else .ignore) c else .drop .ignore c
  | .closing => do
      let (ok, c) ← c.processAckInEstabEtc tcpseg
      if ok then
        if c.finAckRcvd then do
          let the2MSLTimer ← scheduleTimeout c.the2MSLTimer
          return .proceed .rcvAck { c with the2MSLTimer }
        else return .proceed .ignore c
      else return .drop .ignore c
  | .lastAck =>
      .ok (if c.sendFin ∧ tcpseg.ackNo = c.sndFinSeq + 1 then
        .drop .rcvAck (c.sendIndicationToApp .closed)
      else .proceed .ignore c)
  | .timeWait => .ok (.proceed .ignore { c.sendAck with the2MSLTimer := true })
  | .init | .closed | .listen | .synSent => .ok (.proceed .ignore c)

/-- The states in which segment text is delivered -/
def takesText : TcpState → Bool
  | .established | .finWait1 | .finWait2 => true
  | _ => false

/-- The seventh check, of the segment text -/
def processText (c : TCPConnection) (tcpseg : TCPSegment) : TCPExec TCPConnection :=
  if takesText c.fsm ∧ 0 < tcpseg.payloadLength then
    let oldRcvNxt := c.rcvNxt
    let c := c.receiveBytes tcpseg
    if oldRcvNxt = c.rcvNxt then .ok (TCPBaseAlg.receivedOutOfOrderSegment c)
    else do
      let (msgs, receiveQueue) ← (c.receiveQueue.extractMessages c.rcvNxt
        (c.receiveQueue.regionList.length + 1)).mapError .receiveQueue
      let c := { c with receiveQueue, toAppl := c.toAppl ++ msgs.map .data }
      return if c.finRcvd ∧ c.rcvNxt = c.rcvFinSeq then
        sendIndicationToApp { c with rcvNxt := c.rcvFinSeq + 1 } .peerClosed
      else c
  else .ok c

/-- `rcv_nxt` moves over a FIN that is in sequence; one above it is remembered. -/
def receiveFin (c : TCPConnection) (tcpseg : TCPSegment) : TCPConnection :=
  let finSeq := tcpseg.sequenceNo + BitVec.ofNat 32 tcpseg.payloadLength
  if c.rcvNxt = finSeq then sendIndicationToApp { c with rcvNxt := c.rcvNxt + 1 } .peerClosed
  else { c with finRcvd := true, rcvFinSeq := finSeq }

def finEvent (c : TCPConnection) : TCPExec (TCPEventCode × TCPConnection) :=
  match c.fsm with
  | .finWait1 =>
      if c.finAckRcvd then do
        let the2MSLTimer ← scheduleTimeout c.the2MSLTimer
        return (.rcvFinAck, { c with the2MSLTimer, finWait2Timer := false })
      else .ok (.rcvFin, c)
  | .finWait2 => do
      let the2MSLTimer ← scheduleTimeout c.the2MSLTimer
      return (.rcvFin, { c with the2MSLTimer, finWait2Timer := false })
  | .timeWait => .ok (.rcvFin, { c with the2MSLTimer := true })
  | _ => .ok (.rcvFin, c)

/-- The eighth check, of the FIN bit -/
def processFin (c : TCPConnection) (tcpseg : TCPSegment) (event : TCPEventCode) :
    TCPExec (TCPEventCode × TCPConnection) :=
  if tcpseg.finBit then (c.receiveFin tcpseg).finEvent else .ok (event, c)

/-- If `rcv_nxt` changed, an ACK is sent or scheduled. -/
def acknowledge (c : TCPConnection) (oldRcvNxt : BitVec 32) : TCPConnection :=
  if oldRcvNxt ≠ c.rcvNxt then TCPBaseAlg.receiveSeqChanged c else c

/-- In CLOSE_WAIT, a CLOSE that was deferred is done when the FIN has just been sent. -/
def deferredClose (c : TCPConnection) (event : TCPEventCode) (oldSndNxt : BitVec 32) : TCPEventCode :=
  if c.fsm = .closeWait ∧ c.sendFin ∧ c.sndNxt = c.sndFinSeq + 1 ∧ oldSndNxt ≠ c.sndNxt then .close
  else event

/-- The checks from the sixth on; `c` is the connection after the fifth. -/
def processTextAndFin (c : TCPConnection) (tcpseg : TCPSegment) (event : TCPEventCode)
    (oldSndNxt : BitVec 32) : TCPExec (TCPEventCode × TCPConnection) := do
  let oldRcvNxt := c.rcvNxt
  let c ← c.processText tcpseg
  let (event, c) ← c.processFin tcpseg event
  let c := c.acknowledge oldRcvNxt
  return (c.deferredClose event oldSndNxt, c)

def processSegment1stThru8th (c : TCPConnection) (tcpseg : TCPSegment) :
    TCPExec (TCPEventCode × TCPConnection) :=
  if ¬ c.isSegmentAcceptable tcpseg then
    .ok (.ignore, if tcpseg.rstBit then c else c.sendAck)
  else if tcpseg.rstBit then c.processRst
  else if tcpseg.synBit then .ok (.rcvUnexpSyn, c.sendIndicationToApp .connectionReset)
  else if ¬ tcpseg.ackBit then .ok (.ignore, c)
  else do
    match ← c.processAck tcpseg with
    | .drop event c => return (event, c)
    | .proceed event c' => c'.processTextAndFin tcpseg event c.sndNxt

/-- A connection has no state block before the OPEN command. -/
def processRcvSegment (c : TCPConnection) (tcpseg : TCPSegment) :
    TCPExec (TCPEventCode × TCPConnection) :=
  match c.fsm with
  | .init => .error .nullDeref
  | .listen => c.processSegmentInListen tcpseg
  | .synSent => c.processSegmentInSynSent tcpseg
  | _ => c.processSegment1stThru8th tcpseg

end TCPConnection

end IPv6Suite
