import IPv6Suite.TCPConnection

namespace IPv6Suite

open Lib

namespace TCPBaseAlg

def maxRexmitCount : Nat := 12

def sendData (c : TCPConnection) : TCPExec (Bool × TCPConnection) :=
  c.sendData (c.nagleEnabled = true ∧ c.sndUna ≠ c.sndMax) c.sndCwnd.toInt

def established (c : TCPConnection) (active : Bool) : TCPExec TCPConnection :=
  let c := { c with sndCwnd := c.sndMss }
  if active then do
    let (sent, c) ← sendData c
    return if sent then c else c.sendAck
  else .ok c

def connectionClosed (c : TCPConnection) : TCPConnection :=
  { c with rexmitTimer := false, delayedAckTimer := false }

def processRexmitTimer (c : TCPConnection) : TCPExec (TCPEventCode × TCPConnection) :=
  let c := { c with rexmitCount := c.rexmitCount + 1 }
  if c.rexmitCount > maxRexmitCount then .ok (.abort, c.sendIndicationToApp .timedOut)
  else do
    let rexmitTimer ← TCPConnection.scheduleTimeout c.rexmitTimer
    return (.ignore, { c with rexmitTimer, rtseqSendtime := 0 })

def processDelayedAckTimer (c : TCPConnection) : TCPConnection := c.sendAck

def sendCommandInvoked (c : TCPConnection) : TCPExec TCPConnection := do
  let (_, c) ← sendData c
  return c

def receivedOutOfOrderSegment (c : TCPConnection) : TCPConnection := c.sendAck

def receiveSeqChanged (c : TCPConnection) : TCPConnection :=
  if ¬ c.delayedAcksEnabled then c.sendAck
  else { c with delayedAckTimer := true }

/-- `rttMeasurementComplete` computes times only, after an assertion. -/
def rttMeasurementComplete (c : TCPConnection) : TCPExec Unit :=
  TCPExec.assert (c.rexmitTimer = false)

/-- The measurement ends if the byte at `rtseq` is acknowledged. -/
def measureRtt (c : TCPConnection) : TCPExec TCPConnection :=
  if c.rtseqSendtime ≠ 0 ∧ seqLess c.rtseq c.sndUna then do
    rttMeasurementComplete c
    return { c with rtseqSendtime := 0 }
  else .ok c

def receivedDataAck (c : TCPConnection) : TCPExec TCPConnection := do
  let c ← measureRtt { c with rexmitTimer := false }
  if c.sndUna = c.sndMax then return c else startRexmitTimer c

def receivedAckForDataNotYetSent (c : TCPConnection) : TCPConnection := c.sendAck

end TCPBaseAlg

namespace TCPTahoeRenoFamily

/-- The same code in TCPTahoe and TCPReno; `uint` arithmetic -/
def recalculateSlowStartThreshold (c : TCPConnection) : TCPConnection :=
  let flightSize := if c.sndCwnd < c.sndWnd then c.sndCwnd else c.sndWnd
  { c with ssthresh := if flightSize / 2 < 2 * c.sndMss then 2 * c.sndMss else flightSize / 2 }

/-- Slow start and congestion avoidance, the same code in TCPTahoe and TCPReno -/
def increaseCwnd (c : TCPConnection) : TCPConnection :=
  if c.sndCwnd < c.ssthresh then { c with sndCwnd := c.sndCwnd + c.sndMss }
  else
    let incr := c.sndMss * c.sndMss / c.sndCwnd
    { c with sndCwnd := c.sndCwnd + if incr = 0 then 1 else incr }

/-- `cancelEvent(rexmitTimer); startRexmitTimer(); rtseq_sendtime = 0` -/
def restartRexmitTimer (c : TCPConnection) : TCPExec TCPConnection := do
  let c ← TCPBaseAlg.startRexmitTimer { c with rexmitTimer := false }
  return { c with rtseqSendtime := 0 }

end TCPTahoeRenoFamily

namespace TCPTahoe

open TCPTahoeRenoFamily

def processRexmitTimer (c : TCPConnection) : TCPExec (TCPEventCode × TCPConnection) := do
  let (event, c) ← TCPBaseAlg.processRexmitTimer c
  if event = .abort then return (event, c)
  else do
    let c := recalculateSlowStartThreshold c
    let c ← { c with sndCwnd := c.sndMss }.retransmitOneSegment
    return (event, c)

def receivedDataAck (c : TCPConnection) : TCPExec TCPConnection := do
  let c ← TCPBaseAlg.receivedDataAck c
  TCPBaseAlg.sendCommandInvoked (increaseCwnd c)

def receivedDuplicateAck (c : TCPConnection) : TCPExec TCPConnection :=
  if c.dupacks = 3 then do
    let c ← c.retransmitOneSegment
    let c := recalculateSlowStartThreshold c
    restartRexmitTimer { c with sndCwnd := c.sndMss }
  else .ok c

end TCPTahoe

namespace TCPReno

open TCPTahoeRenoFamily

def processRexmitTimer (c : TCPConnection) : TCPExec (TCPEventCode × TCPConnection) := do
  let (event, c) ← TCPBaseAlg.processRexmitTimer c
  if event = .abort then return (event, c)
  else do
    let c := recalculateSlowStartThreshold c
    let c ← { c with sndCwnd := c.sndMss }.retransmitData
    return (event, c)

def receivedDataAck (c : TCPConnection) : TCPExec TCPConnection := do
  let c ← TCPBaseAlg.receivedDataAck c
  TCPBaseAlg.sendCommandInvoked
    (if (3 : BitVec 16).sle c.dupacks then { c with sndCwnd := c.ssthresh } else increaseCwnd c)

def receivedDuplicateAck (c : TCPConnection) : TCPExec TCPConnection :=
  if c.dupacks = 3 then do
    let c ← c.retransmitOneSegment
    let c := recalculateSlowStartThreshold c
    restartRexmitTimer { c with sndCwnd := 3 * c.sndMss }
  else .ok (if (3 : BitVec 16).slt c.dupacks then { c with sndCwnd := c.sndCwnd + c.sndMss } else c)

end TCPReno

namespace TCPNoCongestionControl

def processRexmitTimer (c : TCPConnection) : TCPExec (TCPEventCode × TCPConnection) := do
  let (event, c) ← TCPBaseAlg.processRexmitTimer c
  if event = .abort then return (event, c)
  else do
    let c ← c.retransmitOneSegment
    return (event, c)

def receivedDataAck (c : TCPConnection) : TCPExec TCPConnection := do
  let c ← TCPBaseAlg.receivedDataAck c
  TCPBaseAlg.sendCommandInvoked c

def receivedDuplicateAck (c : TCPConnection) : TCPExec TCPConnection := .ok c

end TCPNoCongestionControl

namespace TCPAlgorithm

def processRexmitTimer (c : TCPConnection) : TCPExec (TCPEventCode × TCPConnection) :=
  match c.tcpAlgorithm with
  | .tahoe => TCPTahoe.processRexmitTimer c
  | .reno => TCPReno.processRexmitTimer c
  | .noCongestionControl => TCPNoCongestionControl.processRexmitTimer c

def receivedDataAck (c : TCPConnection) : TCPExec TCPConnection :=
  match c.tcpAlgorithm with
  | .tahoe => TCPTahoe.receivedDataAck c
  | .reno => TCPReno.receivedDataAck c
  | .noCongestionControl => TCPNoCongestionControl.receivedDataAck c

def receivedDuplicateAck (c : TCPConnection) : TCPExec TCPConnection :=
  match c.tcpAlgorithm with
  | .tahoe => TCPTahoe.receivedDuplicateAck c
  | .reno => TCPReno.receivedDuplicateAck c
  | .noCongestionControl => TCPNoCongestionControl.receivedDuplicateAck c

end TCPAlgorithm

end IPv6Suite
