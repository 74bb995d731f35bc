import IPv6Suite.Lib.Deadlines
import IPv6Suite.Lib.Machine
import IPv6Suite.NDEntry

namespace IPv6Suite

open Lib

abbrev MACAddress := BitVec 48

namespace MACAddress

def isBroadcast (address : MACAddress) : Bool := address = BitVec.allOnes 48

def isEmpty (address : MACAddress) : Bool := address = 0

end MACAddress

/-- Only an `EtherPauseFrame` has the kind `ETH_PAUSE`. -/
inductive EtherMessageKind where
  | ethFrame
  | ethPause (pauseTime : BitVec 32)
deriving DecidableEq

/-- `length` is in bits. -/
structure EtherFrame where
  kind : EtherMessageKind
  dest : MACAddress
  src : MACAddress
  length : Nat
  hasBitError : Bool
deriving DecidableEq

inductive NetworkMsg where
  | etherFrame (frame : EtherFrame)
  | jamSignal
  | autoconfig (txrate : ℚ) (halfDuplex : Bool)
deriving DecidableEq

inductive TransmitState where
  | idle
  | waitIFG
  | transmitting
  | jamming
  | backoff
  | pause
deriving DecidableEq

inductive ReceiveState where
  | idle
  | receiving
  | collision
deriving DecidableEq

/-- The kinds of the messages that the module sends to itself -/
inductive SelfMsg where
  | endIFG
  | endReception
  | endBackoff
  | endTransmission
  | endJamming
  | endPause
  | endAutoconfig
deriving DecidableEq

instance {p : SelfMsg → Prop} [DecidablePred p] : Decidable (∀ msg, p msg) :=
  decidable_of_iff (p .endIFG ∧ p .endReception ∧ p .endBackoff ∧ p .endTransmission ∧ p .endJamming ∧
      p .endPause ∧ p .endAutoconfig)
    ⟨fun ⟨ifg, rx, backoff, tx, jam, pause, autoconfig⟩ msg => by cases msg <;> assumption,
      fun all => ⟨all _, all _, all _, all _, all _, all _, all _⟩⟩

/-- What the module and the kernel stop the simulation with -/
inductive MacError where
  | transmittingAndReceiving
  | unexpectedKind
  | unexpectedSelfMsg
  | destIsLocal
  | frameTooLong
  | queueTooLong
  | longPropagation
  | strayJamTransmitting
  | strayJam
  | frameInIdle
  | jamArrival
  | notWaitIFG
  | noFrameAtEndIFG
  | incorrectStateAtEndTx
  | noFrameAtEndTx
  | notBackoff
  | bufferEmptyAtEndBackoff
  | notJamming
  | notPause
  | nullFrame
  | nonstandardTxrate
  | castFailed
  | negativeLength
  | alreadyScheduled
  | scheduledInPast
deriving DecidableEq

/-- The parameters of the module. A `txrate` of 0 is automatic. -/
structure MacParameters where
  myaddress : MACAddress
  promiscuous : Bool
  txQueueLimit : Int
  queueModule : Bool
  txrate : ℚ
  duplexEnabled : Bool
deriving DecidableEq

/-- What `calculateParameters` finds. Times are in seconds. -/
structure LinkParameters where
  duplexMode : Bool
  carrierExtension : Bool
  frameBursting : Bool
  bitTime : SimTime
  slotTime : SimTime
  interFrameGap : SimTime
  jamDuration : SimTime
  shortestFrameDuration : SimTime
deriving DecidableEq

inductive MacOutput where
  | physOut (msg : NetworkMsg)
  | upperLayerOut (frame : EtherFrame)
  | requestPacket
deriving DecidableEq

/-- The first frame of `txQueue` is the tail of the queue, which is sent next. `sent` is what has left the
module so far. -/
structure EtherMAC where
  now : SimTime
  par : MacParameters
  link : LinkParameters
  autoconfigInProgress : Bool
  lowestTxrateSuggested : ℚ
  duplexVetoed : Bool
  transmitState : TransmitState
  receiveState : ReceiveState
  framesSentInBurst : Nat
  bytesSentInBurst : Nat
  backoffs : Nat
  numConcurrentTransmissions : Nat
  pauseUnitsRequested : BitVec 32
  txQueue : List EtherFrame
  frameBeingReceived : Option EtherFrame
  timers : Alarms SelfMsg SimTime
  sent : List MacOutput

def gigabitMaxBurstBytes : Nat := 8192
def maxEthernetFrame : Nat := 1518
def minEthernetFrame : Nat := 64
def gigabitMinFrameWithExt : Nat := 512
def interframeGapBits : Nat := 96
def ethernetTxrate : ℚ := 10000000
def fastEthernetTxrate : ℚ := 100000000
def gigabitEthernetTxrate : ℚ := 1000000000
def maxAttempts : Nat := 16
def backoffRangeLimit : Nat := 10
def jamSignalBytes : Nat := 4
def preambleBytes : Nat := 7
def sfdBytes : Nat := 1
def pauseBittime : BitVec 32 := 512
def autoconfigPeriod : SimTime := 1 / 1000

def NetworkMsg.length : NetworkMsg → Nat
  | .etherFrame frame => frame.length
  | .jamSignal => 8 * jamSignalBytes
  | .autoconfig .. => 0

/-- `shortestFrameDuration` is a number of bytes. -/
def calculateParameters (txrate : ℚ) (duplexMode : Bool) : Except MacError LinkParameters :=
  if txrate ≠ ethernetTxrate ∧ txrate ≠ fastEthernetTxrate ∧ txrate ≠ gigabitEthernetTxrate then
    .error .nonstandardTxrate
  else
    let bitTime := 1 / txrate
    let carrierExtension : Bool := txrate = gigabitEthernetTxrate ∧ ¬ duplexMode
    .ok {
      duplexMode
      carrierExtension
      frameBursting := txrate = gigabitEthernetTxrate
      bitTime
      slotTime := if txrate = ethernetTxrate ∨ txrate = fastEthernetTxrate then 512 / ethernetTxrate
        else 4096 / gigabitEthernetTxrate
      interFrameGap := interframeGapBits / txrate
      jamDuration := 8 * jamSignalBytes * bitTime
      shortestFrameDuration := if carrierExtension then gigabitMinFrameWithExt else minEthernetFrame }

namespace EtherMAC

/-- The kernel refuses a message that is scheduled already, and a time that has passed. -/
def scheduleAt (m : EtherMAC) (time : SimTime) (msg : SelfMsg) : Except MacError EtherMAC :=
  if m.timers.On msg then .error .alreadyScheduled
  else if time < m.now then .error .scheduledInPast
  else .ok { m with timers := m.timers.schedule msg time }

def cancelEvent (m : EtherMAC) (msg : SelfMsg) : EtherMAC := { m with timers := m.timers.cancel msg }

def send (m : EtherMAC) (output : MacOutput) : EtherMAC := { m with sent := m.sent ++ [output] }

def scheduleEndIFGPeriod (m : EtherMAC) : Except MacError EtherMAC := do
  let m ← m.scheduleAt (m.now + m.link.interFrameGap) .endIFG
  return { m with transmitState := .waitIFG }

def scheduleEndTxPeriod (m : EtherMAC) (frame : EtherFrame) : Except MacError EtherMAC := do
  let m ← m.scheduleAt (m.now + frame.length * m.link.bitTime) .endTransmission
  return { m with transmitState := .transmitting }

def scheduleEndRxPeriod (m : EtherMAC) (frame : EtherFrame) : Except MacError EtherMAC := do
  let m ← m.scheduleAt (m.now + frame.length * m.link.bitTime) .endReception
  return { m with receiveState := .receiving }

/-- The product of the units and of `PAUSE_BITTIME` is an `int`. -/
def scheduleEndPausePeriod (m : EtherMAC) (pauseUnits : BitVec 32) : Except MacError EtherMAC := do
  let m ← m.scheduleAt (m.now + (pauseUnits * pauseBittime).toInt * m.link.bitTime) .endPause
  return { m with transmitState := .pause }

def sendJamSignal (m : EtherMAC) : Except MacError EtherMAC := do
  let m := m.send (.physOut .jamSignal)
  let m ← m.scheduleAt (m.now + m.link.jamDuration) .endJamming
  return { m with transmitState := .jamming }

/-- The queue module is told that the transmitter is idle. -/
def requestFrame (m : EtherMAC) : EtherMAC := if m.par.queueModule then m.send .requestPacket else m

def beginSendFrames (m : EtherMAC) : Except MacError EtherMAC :=
  if m.txQueue ≠ [] then m.scheduleEndIFGPeriod else .ok { m with transmitState := .idle }.requestFrame

/-- A PAUSE frame is queued behind the frame that is probably being transmitted. -/
def enqueue (m : EtherMAC) (frame : EtherFrame) : Except MacError EtherMAC :=
  match frame.kind with
  | .ethFrame =>
      if m.par.txQueueLimit ≠ 0 ∧ m.par.txQueueLimit < m.txQueue.length then .error .queueTooLong
      else
        let frame := if frame.src.isEmpty then { frame with src := m.par.myaddress } else frame
        .ok { m with txQueue := m.txQueue ++ [frame] }
  | .ethPause _ =>
      match m.txQueue with
      | [] => .ok { m with txQueue := [frame] }
      | tail :: rest => .ok { m with txQueue := tail :: frame :: rest }

def processFrameFromUpperLayer (m : EtherMAC) (frame : EtherFrame) : Except MacError EtherMAC :=
  if frame.dest = m.par.myaddress then .error .destIsLocal
  else if 8 * maxEthernetFrame < frame.length then .error .frameTooLong
  else do
    let m ← m.enqueue frame
    if ¬ m.autoconfigInProgress ∧ (m.link.duplexMode ∨ m.receiveState = .idle) ∧ m.transmitState = .idle then
      m.scheduleEndIFGPeriod
    else return m

/-- The preamble and the SFD are stripped, and the frame is passed up if it is for this module. -/
def processReceivedDataFrame (m : EtherMAC) (frame : EtherFrame) : Except MacError EtherMAC :=
  if frame.hasBitError then .ok m
  else if frame.length < 8 * preambleBytes + 8 * sfdBytes then .error .negativeLength
  else if ¬ m.par.promiscuous ∧ ¬ frame.dest.isBroadcast ∧ frame.dest ≠ m.par.myaddress then .ok m
  else .ok (m.send (.upperLayerOut { frame with length := frame.length - 8 * preambleBytes - 8 * sfdBytes }))

def processPauseCommand (m : EtherMAC) (pauseUnits : BitVec 32) : Except MacError EtherMAC :=
  match m.transmitState with
  | .idle => if 0 < pauseUnits.toInt then m.scheduleEndPausePeriod pauseUnits else .ok m
  | .pause =>
      let m := m.cancelEvent .endPause
      if 0 < pauseUnits.toInt then m.scheduleEndPausePeriod pauseUnits else .ok m
  -- the transmitter is busy, and goes to the PAUSE state when it has sent the frame
  | _ => .ok { m with pauseUnitsRequested := pauseUnits }

def frameReceptionComplete (m : EtherMAC) (frame : EtherFrame) : Except MacError EtherMAC :=
  match frame.kind with
  | .ethFrame => m.processReceivedDataFrame frame
  | .ethPause pauseTime => m.processPauseCommand pauseTime

/-- `frameBeingReceived` is handed over. -/
def completeReception (m : EtherMAC) : Except MacError EtherMAC :=
  match m.frameBeingReceived with
  | none => .error .nullFrame
  | some frame => { m with frameBeingReceived := none }.frameReceptionComplete frame

/-- The collided frame is dropped. -/
def enterCollision (m : EtherMAC) : EtherMAC :=
  { m with
    frameBeingReceived := if m.receiveState = .receiving then none else m.frameBeingReceived
    receiveState := .collision }

def rescheduleEndRx (m : EtherMAC) (time : SimTime) : Except MacError EtherMAC :=
  (m.cancelEvent .endReception).scheduleAt time .endReception

/-- A frame interrupts a transmission, and the backoff is executed when jamming has finished. -/
def interruptTransmission (m : EtherMAC) (endRxTime : SimTime) : Except MacError EtherMAC := do
  let m ← (m.cancelEvent .endTransmission).sendJamSignal
  let m := { m with
    receiveState := .collision
    numConcurrentTransmissions := m.numConcurrentTransmissions + 1 }
  let endJamTime := m.now + m.link.jamDuration
  m.scheduleAt (if endRxTime < endJamTime then endJamTime else endRxTime) .endReception

def startReception (m : EtherMAC) (frame : EtherFrame) : Except MacError EtherMAC :=
  if m.frameBeingReceived.isSome then .error .frameInIdle
  else scheduleEndRxPeriod { m with
    numConcurrentTransmissions := m.numConcurrentTransmissions + 1
    frameBeingReceived := some frame } frame

/-- A jam signal marks the end of one transmission, and the last one the end of the collision. -/
def overlapJam (m : EtherMAC) (endRxTime : SimTime) : Except MacError EtherMAC :=
  if m.numConcurrentTransmissions ≤ 0 then .error .jamArrival
  else do
    let m := { m with numConcurrentTransmissions := m.numConcurrentTransmissions - 1 }
    let m ← (if m.numConcurrentTransmissions = 0 then m.rescheduleEndRx endRxTime else .ok m)
    return m.enterCollision

/-- The collision lasts until the end of the longest transmission. -/
def overlapFrame (m : EtherMAC) (endRxTime : SimTime) : Except MacError EtherMAC := do
  let m := { m with numConcurrentTransmissions := m.numConcurrentTransmissions + 1 }
  let m ← (if (m.timers .endReception).arrivalTime < endRxTime then m.rescheduleEndRx endRxTime else .ok m)
  return m.enterCollision

/-- A frame begins before the event that ends the frame before it, at the same time. -/
def BackToBack (m : EtherMAC) : Prop :=
  m.receiveState = .receiving ∧ (m.timers .endReception).arrivalTime - m.now < m.link.bitTime
deriving Decidable

def nextReception (m : EtherMAC) (frame : EtherFrame) : Except MacError EtherMAC := do
  let m ← (m.cancelEvent .endReception).completeReception
  scheduleEndRxPeriod { m with frameBeingReceived := some frame } frame

def receiveFrame (m : EtherMAC) (frame : EtherFrame) : Except MacError EtherMAC :=
  let endRxTime := m.now + frame.length * m.link.bitTime
  if ¬ m.link.duplexMode ∧ m.transmitState = .transmitting then m.interruptTransmission endRxTime
  else if m.receiveState = .idle then m.startReception frame
  else if m.BackToBack then m.nextReception frame
  else m.overlapFrame endRxTime

def receiveJam (m : EtherMAC) : Except MacError EtherMAC :=
  let endRxTime := m.now + NetworkMsg.jamSignal.length * m.link.bitTime
  if ¬ m.link.duplexMode ∧ m.transmitState = .transmitting then .error .strayJamTransmitting
  else if m.receiveState = .idle then .error .strayJam
  else m.overlapJam endRxTime

/-- In half-duplex mode, a message that has been on the cable for too long violates the cable length. -/
def LongPropagation (m : EtherMAC) (sendingTime : SimTime) : Prop :=
  m.link.duplexMode = false ∧ m.link.shortestFrameDuration ≤ m.now - sendingTime
deriving Decidable

def processMsgFromNetwork (m : EtherMAC) (msg : NetworkMsg) (sendingTime : SimTime) : Except MacError EtherMAC :=
  match msg with
  | .autoconfig .. => .error .unexpectedKind
  | .etherFrame frame => if m.LongPropagation sendingTime then .error .longPropagation else m.receiveFrame frame
  | .jamSignal => if m.LongPropagation sendingTime then .error .longPropagation else m.receiveJam

def addPreamble (frame : EtherFrame) : EtherFrame :=
  { frame with length := frame.length + 8 * preambleBytes + 8 * sfdBytes }

/-- The variables of the burst are updated. -/
def countInBurst (m : EtherMAC) (frame : EtherFrame) : EtherMAC :=
  if m.link.frameBursting then
    { m with bytesSentInBurst := frame.length / 8, framesSentInBurst := m.framesSentInBurst + 1 }
  else m

/-- The channel is not sensed during the gap, so a reception may be going on. It is collided with at once. -/
def transmit (m : EtherMAC) (frame : EtherFrame) : Except MacError EtherMAC :=
  if ¬ m.link.duplexMode ∧ m.receiveState ≠ .idle then do
    let m ← m.sendJamSignal
    return m.enterCollision
  else m.scheduleEndTxPeriod frame

/-- A copy of the frame is sent. -/
def startFrameTransmission (m : EtherMAC) : Except MacError EtherMAC :=
  match m.txQueue with
  | [] => .error .nullFrame
  | origFrame :: _ =>
      let frame := addPreamble origFrame
      ((m.send (.physOut (.etherFrame frame))).countInBurst frame).transmit frame

def extendCarrier (m : EtherMAC) (frame : EtherFrame) : EtherFrame :=
  if m.link.carrierExtension ∧ frame.length < 8 * gigabitMinFrameWithExt then
    { frame with length := 8 * gigabitMinFrameWithExt }
  else frame

def startBurst (m : EtherMAC) : EtherMAC :=
  if m.link.frameBursting then { m with framesSentInBurst := 0, bytesSentInBurst := 0 } else m

def handleEndIFGPeriod (m : EtherMAC) : Except MacError EtherMAC :=
  if m.transmitState ≠ .waitIFG then .error .notWaitIFG
  else match m.txQueue with
    | [] => .error .noFrameAtEndIFG
    | frame :: rest =>
        { m with txQueue := m.extendCarrier frame :: rest }.startBurst.startFrameTransmission

def handleEndTxPeriod (m : EtherMAC) : Except MacError EtherMAC :=
  if m.transmitState ≠ .transmitting ∨ (¬ m.link.duplexMode ∧ m.receiveState ≠ .idle) then
    .error .incorrectStateAtEndTx
  else match m.txQueue with
    | [] => .error .noFrameAtEndTx
    | _ :: rest =>
        let m := { m with txQueue := rest, backoffs := 0 }
        if (0 : ℤ) < m.pauseUnitsRequested.toInt then do
          let m ← m.scheduleEndPausePeriod m.pauseUnitsRequested
          return { m with pauseUnitsRequested := 0 }
        else if m.link.frameBursting ∧ m.txQueue ≠ [] ∧ m.bytesSentInBurst < gigabitMaxBurstBytes then
          m.startFrameTransmission
        else m.beginSendFrames

def handleEndRxPeriod (m : EtherMAC) : Except MacError EtherMAC := do
  let m ← (if m.receiveState = .receiving then m.completeReception else .ok m)
  let m := { m with receiveState := .idle, numConcurrentTransmissions := 0 }
  if m.transmitState = .idle ∧ m.txQueue ≠ [] then m.scheduleEndIFGPeriod else return m

def handleEndBackoffPeriod (m : EtherMAC) : Except MacError EtherMAC :=
  if m.transmitState ≠ .backoff then .error .notBackoff
  else if m.txQueue = [] then .error .bufferEmptyAtEndBackoff
  else if m.receiveState = .idle then m.scheduleEndIFGPeriod
  else .ok { m with transmitState := .idle }

def backoffRange (backoffs : Nat) : Nat := if backoffRangeLimit ≤ backoffs then 1024 else 2 ^ backoffs

/-- `slotNumber` is what `intuniform` gives. -/
def handleRetransmission (m : EtherMAC) (slotNumber : Nat) : Except MacError EtherMAC :=
  let m := { m with backoffs := m.backoffs + 1 }
  if maxAttempts < m.backoffs then
    .ok { m with txQueue := m.txQueue.tail, transmitState := .idle, backoffs := 0 }
  else do
    let m ← m.scheduleAt (m.now + slotNumber * m.link.slotTime) .endBackoff
    return { m with transmitState := .backoff }

def handleEndJammingPeriod (m : EtherMAC) (slotNumber : Nat) : Except MacError EtherMAC :=
  if m.transmitState ≠ .jamming then .error .notJamming else m.handleRetransmission slotNumber

def handleEndPausePeriod (m : EtherMAC) : Except MacError EtherMAC :=
  if m.transmitState ≠ .pause then .error .notPause else m.beginSendFrames

/-- What arrives at the module, with what `intuniform` gives for a backoff -/
inductive Event where
  | upperLayerIn (frame : EtherFrame)
  | physIn (msg : NetworkMsg) (sendingTime : SimTime)
  | selfMsg (msg : SelfMsg) (slotNumber : Nat)
deriving DecidableEq

/-- The rate that is chosen at the end of the autoconfiguration: 100 Mb if no one has suggested one -/
def chosenTxrate (m : EtherMAC) : ℚ :=
  if m.par.txrate = 0 ∧ m.lowestTxrateSuggested = 0 then fastEthernetTxrate
  else if m.par.txrate = 0 then m.lowestTxrateSuggested
  else if m.lowestTxrateSuggested = 0 then m.par.txrate
  else if m.lowestTxrateSuggested < m.par.txrate then m.lowestTxrateSuggested
  else m.par.txrate

def handleAutoconfigMessage (m : EtherMAC) : Event → Except MacError EtherMAC
  | .upperLayerIn frame => m.processFrameFromUpperLayer frame
  | .physIn (.autoconfig txrate halfDuplex) _ =>
      .ok { m with
        lowestTxrateSuggested :=
          if 0 < txrate ∧ (txrate < m.lowestTxrateSuggested ∨ m.lowestTxrateSuggested = 0) then txrate
          else m.lowestTxrateSuggested
        duplexVetoed := m.duplexVetoed || halfDuplex }
  | .physIn _ _ => .error .castFailed
  | .selfMsg _ _ => do
      let link ← calculateParameters m.chosenTxrate (m.par.duplexEnabled && !m.duplexVetoed)
      let m := { m with autoconfigInProgress := false, link }
      if m.txQueue ≠ [] then m.scheduleEndIFGPeriod else return m

def dispatch (m : EtherMAC) : Event → Except MacError EtherMAC
  | .upperLayerIn frame => m.processFrameFromUpperLayer frame
  | .physIn msg sendingTime => m.processMsgFromNetwork msg sendingTime
  | .selfMsg .endIFG _ => m.handleEndIFGPeriod
  | .selfMsg .endTransmission _ => m.handleEndTxPeriod
  | .selfMsg .endReception _ => m.handleEndRxPeriod
  | .selfMsg .endBackoff _ => m.handleEndBackoffPeriod
  | .selfMsg .endJamming slotNumber => m.handleEndJammingPeriod slotNumber
  | .selfMsg .endPause _ => m.handleEndPausePeriod
  | .selfMsg .endAutoconfig _ => .error .unexpectedSelfMsg

def handleMessage (m : EtherMAC) (e : Event) : Except MacError EtherMAC :=
  if m.autoconfigInProgress then m.handleAutoconfigMessage e
  else if ¬ m.link.duplexMode ∧ m.transmitState = .transmitting ∧ m.receiveState ≠ .idle then
    .error .transmittingAndReceiving
  else m.dispatch e

/-- The kernel hands a message over at its time. A self message is not scheduled any more then. -/
def deliver (m : EtherMAC) (time : SimTime) : Event → EtherMAC
  | .selfMsg msg _ => { m with now := time, timers := m.timers.cancel msg }
  | _ => { m with now := time }

def handle (m : EtherMAC) (e : SimTime × Event) : Except MacError EtherMAC := (m.deliver e.1 e.2).handleMessage e.2

def step (m : EtherMAC) (e : SimTime × Event) : Exec EtherMAC := (m.handle e).mapError fun _ => .fatalError

/-- A self message arrives when it is scheduled, no scheduled one is passed over, and a backoff is one of the
range. -/
def Admits (m : EtherMAC) (e : SimTime × Event) : Prop :=
  m.now ≤ e.1 ∧ (∀ msg, m.timers.On msg → e.1 ≤ (m.timers msg).arrivalTime) ∧
    match e.2 with
    | .selfMsg msg slotNumber => m.timers.On msg ∧ (m.timers msg).arrivalTime = e.1 ∧
        (msg = .endJamming → slotNumber < backoffRange (m.backoffs + 1))
    | _ => True

instance (m : EtherMAC) (e : SimTime × Event) : Decidable (m.Admits e) := by
  unfold Admits
  cases e.2 <;> infer_instance

/-- The module after `initialize`, connected to a network: it has advertised its settings and requested the
first frame. -/
def start (par : MacParameters) : EtherMAC where
  now := 0
  par
  link := ⟨par.duplexEnabled, false, false, 0, 0, 0, 0, 0⟩
  autoconfigInProgress := true
  lowestTxrateSuggested := 0
  duplexVetoed := false
  transmitState := .idle
  receiveState := .idle
  framesSentInBurst := 0
  bytesSentInBurst := 0
  backoffs := 0
  numConcurrentTransmissions := 0
  pauseUnitsRequested := 0
  txQueue := []
  frameBeingReceived := none
  timers := (Alarms.idle 0).schedule .endAutoconfig autoconfigPeriod
  sent :=
    (if par.duplexEnabled = false ∨ 0 < par.txrate then
        [.physOut (.autoconfig (if 0 < par.txrate then par.txrate else 0) (!par.duplexEnabled))] else []) ++
      if par.queueModule then [.requestPacket] else []

end EtherMAC

end IPv6Suite
