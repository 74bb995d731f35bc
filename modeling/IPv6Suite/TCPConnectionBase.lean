import IPv6Suite.Lib.Machine
import IPv6Suite.TCPConnectionRcvSegment

namespace IPv6Suite

open Lib

/-- The commands of the application; an active open names the remote socket or not. -/
inductive TCPCommand where
  | openActive (remoteSpecified : Bool)
  | openPassive
  | send (msg : CMessage)
  | close
  | abort
  | status

namespace TCPConnection

def maxSynRexmitCount : Nat := 12

/-- `scheduleTimeout` on a timer that may be null -/
def scheduleSetupTimer : Option Bool → TCPExec (Option Bool)
  | none => .error .nullDeref
  | some timer => some <$> scheduleTimeout timer

/-- What an active open and a SEND on a listening connection do. -/
def openActively (c : TCPConnection) : TCPExec TCPConnection := do
  let c ← c.selectInitialSeqNum.sendSyn
  let c ← c.startSynRexmitTimer
  let connEstabTimer ← scheduleSetupTimer c.connEstabTimer
  return { c with connEstabTimer }

def processOpenActive (c : TCPConnection) (remoteSpecified : Bool) : TCPExec TCPConnection :=
  match c.fsm with
  | .init | .listen =>
      if remoteSpecified then openActively { c with active := true, remoteSpecified }
      else .error .oppError
  | _ => .error .oppError

def processOpenPassive (c : TCPConnection) : TCPExec TCPConnection :=
  match c.fsm with
  | .init | .listen => .ok { c with active := false, remoteSpecified := false }
  | _ => .error .oppError

def enqueueAppData (c : TCPConnection) (msg : CMessage) : TCPConnection :=
  { c with sendQueue := c.sendQueue.enqueueAppData msg }

def processSend (c : TCPConnection) (msg : CMessage) : TCPExec TCPConnection :=
  match c.fsm with
  | .listen => do
      let c ← openActively { c with active := true }
      return c.enqueueAppData msg
  | .synRcvd | .synSent => .ok (c.enqueueAppData msg)
  | .established | .closeWait => TCPBaseAlg.sendCommandInvoked (c.enqueueAppData msg)
  | .closed => .ok c
  | .init | .lastAck | .finWait1 | .finWait2 | .closing | .timeWait => .error .oppError

/-- The FIN is sent right away, and `snd_nxt` moves over it. -/
def sendFinNow (c : TCPConnection) : TCPConnection :=
  let c := { c with sndNxt := c.sndMax }.sendFinSegment
  { c with sndMax := c.sndNxt + 1, sndNxt := c.sndNxt + 1 }

def queueFin (c : TCPConnection) : TCPConnection :=
  { c with sendFin := true, sndFinSeq := c.sendQueue.bufferEndSeq }

/-- The event is `ignore` where the CLOSE is deferred. -/
def processClose (c : TCPConnection) : TCPExec (TCPEventCode × TCPConnection) :=
  match c.fsm with
  | .listen | .synSent | .closed => .ok (.close, c)
  | .synRcvd | .established | .closeWait =>
      if c.sndMax = c.sendQueue.bufferEndSeq then .ok (.close, c.sendFinNow.queueFin)
      else .ok (if c.fsm = .closeWait then .ignore else .close, c.queueFin)
  | .init | .finWait1 | .finWait2 | .closing | .lastAck | .timeWait => .error .oppError

def processAbort (c : TCPConnection) : TCPExec TCPConnection :=
  match c.fsm with
  | .init => .error .oppError
  | .synRcvd | .established | .finWait1 | .finWait2 | .closeWait => .ok (c.sendRst c.sndNxt)
  | _ => .ok c

def processStatus (c : TCPConnection) : TCPExec TCPConnection :=
  if c.fsm = .init then .error .oppError else .ok (c.sendIndicationToApp .status)

def processTimeoutConnEstab (c : TCPConnection) : TCPExec TCPConnection :=
  match c.fsm with
  | .synRcvd | .synSent => .ok (if c.active then c.sendIndicationToApp .timedOut else c)
  | _ => .error .oppError

def processTimeout2MSL (c : TCPConnection) : TCPExec TCPConnection :=
  if c.fsm = .timeWait then .ok (c.sendIndicationToApp .closed) else .error .oppError

def processTimeoutFinWait2 (c : TCPConnection) : TCPExec TCPConnection :=
  if c.fsm = .finWait2 then .ok (c.sendIndicationToApp .closed) else .error .oppError

def resendSyn (c : TCPConnection) : TCPExec TCPConnection :=
  match c.fsm with
  | .synSent => c.sendSyn
  | .synRcvd => .ok c.sendSynAck
  | _ => .error .oppError

def processTimeoutSynRexmit (c : TCPConnection) : TCPExec (TCPEventCode × TCPConnection) :=
  let c := { c with synRexmitCount := c.synRexmitCount + 1 }
  if c.synRexmitCount > maxSynRexmitCount then .ok (.abort, c)
  else do
    let c ← c.resendSyn
    let synRexmitTimer ← scheduleSetupTimer c.synRexmitTimer
    return (.ignore, { c with synRexmitTimer })

end TCPConnection

/-- What a connection reacts to. -/
inductive TCPInput where
  | command (cmd : TCPCommand)
  | segment (tcpseg : TCPSegment)
  | timeout (timer : TCPTimer)

namespace TCPConnection

/-- The state machine in `performStateTransition`; no entry means that the state stays. -/
def transition (active : Bool) : TcpState → TCPEventCode → Option TcpState
  | .init, .openPassive => some .listen
  | .init, .openActive => some .synSent
  | .listen, .openActive => some .synSent
  | .listen, .send => some .synSent
  | .listen, .close => some .closed
  | .listen, .abort => some .closed
  | .listen, .rcvSyn => some .synRcvd
  | .synRcvd, .close => some .finWait1
  | .synRcvd, .abort => some .closed
  | .synRcvd, .timeoutConnEstab => some (if active then .closed else .listen)
  | .synRcvd, .rcvRst => some (if active then .closed else .listen)
  | .synRcvd, .rcvAck => some .established
  | .synRcvd, .rcvFin => some .closeWait
  | .synRcvd, .rcvUnexpSyn => some .closed
  | .synSent, .close => some .closed
  | .synSent, .abort => some .closed
  | .synSent, .timeoutConnEstab => some .closed
  | .synSent, .rcvRst => some .closed
  | .synSent, .rcvSynAck => some .established
  | .synSent, .rcvSyn => some .synRcvd
  | .established, .close => some .finWait1
  | .established, .abort => some .closed
  | .established, .rcvFin => some .closeWait
  | .established, .rcvRst => some .closed
  | .established, .rcvUnexpSyn => some .closed
  | .closeWait, .close => some .lastAck
  | .closeWait, .abort => some .closed
  | .closeWait, .rcvRst => some .closed
  | .closeWait, .rcvUnexpSyn => some .closed
  | .lastAck, .abort => some .closed
  | .lastAck, .rcvAck => some .closed
  | .lastAck, .rcvRst => some .closed
  | .lastAck, .rcvUnexpSyn => some .closed
  | .finWait1, .abort => some .closed
  | .finWait1, .rcvFin => some .closing
  | .finWait1, .rcvAck => some .finWait2
  | .finWait1, .rcvFinAck => some .timeWait
  | .finWait1, .rcvRst => some .closed
  | .finWait1, .rcvUnexpSyn => some .closed
  | .finWait2, .abort => some .closed
  | .finWait2, .rcvFin => some .timeWait
  | .finWait2, .timeoutFinWait2 => some .closed
  | .finWait2, .rcvRst => some .closed
  | .finWait2, .rcvUnexpSyn => some .closed
  | .closing, .abort => some .closed
  | .closing, .rcvAck => some .timeWait
  | .closing, .rcvRst => some .closed
  | .closing, .rcvUnexpSyn => some .closed
  | .timeWait, .abort => some .closed
  | .timeWait, .timeout2MSL => some .closed
  | .timeWait, .rcvRst => some .closed
  | .timeWait, .rcvUnexpSyn => some .closed
  | _, _ => none

def cancelSetupTimers (c : TCPConnection) : TCPConnection :=
  { c with
    connEstabTimer := c.connEstabTimer.map fun _ => false
    synRexmitTimer := c.synRexmitTimer.map fun _ => false }

def stateEntered (c : TCPConnection) : TCPExec TCPConnection :=
  match c.fsm with
  | .init | .synRcvd | .synSent => .ok c
  | .listen => do
      TCPExec.assert (c.connEstabTimer.isSome ∧ c.synRexmitTimer.isSome)
      return c.cancelSetupTimers
  | .established =>
      .ok (sendIndicationToApp { c with connEstabTimer := none, synRexmitTimer := none } .established)
  | .closeWait | .lastAck | .finWait1 | .finWait2 | .closing | .timeWait => .ok c.cancelSetupTimers
  | .closed =>
      let c := c.cancelSetupTimers
      .ok (TCPBaseAlg.connectionClosed { c with the2MSLTimer := false, finWait2Timer := false })

def nextState (c : TCPConnection) (event : TCPEventCode) : TcpState :=
  if event = .ignore then c.fsm else (transition c.active c.fsm event).getD c.fsm

def performStateTransition (c : TCPConnection) (event : TCPEventCode) : TCPExec TCPConnection :=
  if c.nextState event = c.fsm then .ok c else { c with fsm := c.nextState event }.stateEntered

def isScheduled (c : TCPConnection) : TCPTimer → Bool
  | .the2MSLTimer => c.the2MSLTimer
  | .connEstabTimer => c.connEstabTimer = some true
  | .finWait2Timer => c.finWait2Timer
  | .synRexmitTimer => c.synRexmitTimer = some true
  | .rexmitTimer => c.rexmitTimer
  | .delayedAckTimer => c.delayedAckTimer

/-- A timer that expires is not scheduled any more. -/
def expire (c : TCPConnection) : TCPTimer → TCPConnection
  | .the2MSLTimer => { c with the2MSLTimer := false }
  | .connEstabTimer => { c with connEstabTimer := some false }
  | .finWait2Timer => { c with finWait2Timer := false }
  | .synRexmitTimer => { c with synRexmitTimer := some false }
  | .rexmitTimer => { c with rexmitTimer := false }
  | .delayedAckTimer => { c with delayedAckTimer := false }

def processTimer (c : TCPConnection) : TCPTimer → TCPExec (TCPEventCode × TCPConnection)
  | .the2MSLTimer => (fun c => (.timeout2MSL, c)) <$> c.processTimeout2MSL
  | .connEstabTimer => (fun c => (.timeoutConnEstab, c)) <$> c.processTimeoutConnEstab
  | .finWait2Timer => (fun c => (.timeoutFinWait2, c)) <$> c.processTimeoutFinWait2
  | .synRexmitTimer => c.processTimeoutSynRexmit
  | .rexmitTimer => TCPAlgorithm.processRexmitTimer c
  | .delayedAckTimer => .ok (.ignore, TCPBaseAlg.processDelayedAckTimer c)

def processAppCommand (c : TCPConnection) : TCPCommand → TCPExec (TCPEventCode × TCPConnection)
  | .openActive remote => (fun c => (.openActive, c)) <$> c.processOpenActive remote
  | .openPassive => (fun c => (.openPassive, c)) <$> c.processOpenPassive
  | .send msg => (fun c => (.send, c)) <$> c.processSend msg
  | .close => c.processClose
  | .abort => (fun c => (.abort, c)) <$> c.processAbort
  | .status => (fun c => (.status, c)) <$> c.processStatus

def processInput (c : TCPConnection) : TCPInput → TCPExec (TCPEventCode × TCPConnection)
  | .command cmd => c.processAppCommand cmd
  | .segment tcpseg => c.processRcvSegment tcpseg
  | .timeout timer =>
      if c.isScheduled timer then (c.expire timer).processTimer timer else .ok (.ignore, c)

def atTime (c : TCPConnection) (simTime : Nat) : TCPConnection := { c with simTime }

/-- An input at a time. Nothing reaches a closed connection, as it is deleted. -/
def handle (c : TCPConnection) (simTime : Nat) (input : TCPInput) : TCPExec TCPConnection :=
  if c.fsm = .closed then .ok c
  else do
    let (event, c) ← (c.atTime simTime).processInput input
    c.performStateTransition event

/-- A fault ends the simulation. -/
def step (c : TCPConnection) (arrival : Nat × TCPInput) : Exec TCPConnection :=
  (c.handle arrival.1 arrival.2).mapError TCPFault.fault

end TCPConnection

end IPv6Suite
