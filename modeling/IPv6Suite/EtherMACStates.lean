import IPv6Suite.EtherMAC
import IPv6Suite.Lib.Ensures

namespace IPv6Suite

open Lib

def TransmitState.timer : TransmitState → Option SelfMsg
  | .idle => none
  | .waitIFG => some .endIFG
  | .transmitting => some .endTransmission
  | .jamming => some .endJamming
  | .backoff => some .endBackoff
  | .pause => some .endPause

def ReceiveState.timer : ReceiveState → Option SelfMsg
  | .idle => none
  | .receiving | .collision => some .endReception

/-- The first frame of the queue is being sent, or will be. -/
def TransmitState.Sends (tx : TransmitState) : Prop := tx ≠ .idle ∧ tx ≠ .pause

theorem TransmitState.timer_ne {tx : TransmitState} {k : SelfMsg} (own : tx.timer = some k) :
    k ≠ .endReception ∧ k ≠ .endAutoconfig := by
  cases tx <;> cases own <;> exact ⟨nofun, nofun⟩

theorem ReceiveState.timer_eq {rx : ReceiveState} {k : SelfMsg} (own : rx.timer = some k) : k = .endReception := by
  cases rx <;> cases own <;> rfl

theorem ReceiveState.timer_of_busy {rx : ReceiveState} (busy : rx ≠ .idle) : rx.timer = some .endReception := by
  cases rx with
  | idle => exact (busy rfl).elim
  | receiving | collision => rfl

/-- The timers of the states -/
def Due (autoconfig : Bool) (tx : TransmitState) (rx : ReceiveState) (k : SelfMsg) : Prop :=
  (autoconfig = true ∧ k = .endAutoconfig) ∨ tx.timer = some k ∨ rx.timer = some k

abbrev Armed (strict : Prop) (timers : Alarms SelfMsg SimTime) (autoconfig : Bool) (tx : TransmitState)
    (rx : ReceiveState) : Prop := timers.Held strict (Due autoconfig tx rx)

namespace Armed

variable {strict : Prop} {timers : Alarms SelfMsg SimTime} {autoconfig : Bool} {tx : TransmitState}
  {rx : ReceiveState} {k : SelfMsg} {time : SimTime}

theorem schedule_tx (armed : Armed strict timers autoconfig .idle rx) (own : tx.timer = some k) :
    Armed strict (timers.schedule k time) autoconfig tx rx :=
  armed.schedule fun j => by
    unfold Due
    rw [own]
    simp only [TransmitState.timer, Option.some.injEq]
    grind

theorem schedule_rx (armed : Armed strict timers autoconfig tx .idle) (busy : rx ≠ .idle) :
    Armed strict (timers.schedule .endReception time) autoconfig tx rx :=
  armed.schedule fun j => by
    unfold Due
    rw [ReceiveState.timer_of_busy busy]
    simp only [ReceiveState.timer, Option.some.injEq]
    grind

theorem cancel_tx (armed : Armed strict timers autoconfig tx rx) (own : tx.timer = some k) :
    Armed strict (timers.cancel k) autoconfig .idle rx :=
  armed.cancel fun j => by
    have ne := TransmitState.timer_ne own
    have rx_ne : rx.timer ≠ some k := fun same => ne.1 (ReceiveState.timer_eq same)
    unfold Due
    rw [own]
    simp only [TransmitState.timer, Option.some.injEq]
    grind

theorem cancel_rx (armed : Armed strict timers autoconfig tx rx) :
    Armed strict (timers.cancel .endReception) autoconfig tx .idle :=
  armed.cancel fun j => by
    have tx_ne : tx.timer ≠ some .endReception := fun same => (TransmitState.timer_ne same).1 rfl
    have rx_eq : rx.timer = some j → j = .endReception := ReceiveState.timer_eq
    unfold Due
    simp only [ReceiveState.timer]
    grind

theorem cancel_autoconfig (armed : Armed strict timers true .idle .idle) :
    Armed strict (timers.cancel .endAutoconfig) false .idle .idle :=
  armed.cancel fun j => by
    unfold Due
    simp only [ReceiveState.timer, TransmitState.timer]
    grind

theorem busy_rx {rx' : ReceiveState} (armed : Armed strict timers autoconfig tx rx) (busy : rx ≠ .idle)
    (busy' : rx' ≠ .idle) : Armed strict timers autoconfig tx rx' :=
  armed.congr fun j => by
    unfold Due
    rw [ReceiveState.timer_of_busy busy, ReceiveState.timer_of_busy busy']

theorem free_tx (armed : Armed strict timers autoconfig .idle rx) (own : tx.timer = some k) : ¬ timers.On k := by
  intro on
  obtain ⟨_, auto⟩ | none | receives := armed.1 k on
  · exact (TransmitState.timer_ne own).2 auto
  · cases none
  · exact (TransmitState.timer_ne own).1 (ReceiveState.timer_eq receives)

theorem free_rx (armed : Armed strict timers autoconfig tx .idle) : ¬ timers.On .endReception := by
  intro on
  obtain ⟨_, auto⟩ | sends | none := armed.1 _ on
  · cases auto
  · exact (TransmitState.timer_ne sends).1 rfl
  · cases none

end Armed

/-- The errors that report a state of the module itself, and not what it was given -/
def MacError.inconsistent : MacError → Bool
  | .transmittingAndReceiving | .unexpectedSelfMsg | .frameInIdle | .jamArrival | .notWaitIFG | .noFrameAtEndIFG
  | .incorrectStateAtEndTx | .noFrameAtEndTx | .notBackoff | .bufferEmptyAtEndBackoff | .notJamming | .notPause
  | .nullFrame | .alreadyScheduled => true
  | .unexpectedKind | .destIsLocal | .frameTooLong | .queueTooLong | .longPropagation | .strayJamTransmitting
  | .strayJam | .nonstandardTxrate | .castFailed | .negativeLength | .scheduledInPast => false

/-- A jam signal too many is the only one of these errors, and not one of a strict run. -/
def Quiet (strict : Prop) (fault : MacError) : Prop := fault.inconsistent = true → fault = .jamArrival ∧ ¬ strict

theorem quiet_of_consistent {strict : Prop} {fault : MacError} (consistent : fault.inconsistent = false) :
    Quiet strict fault := fun inconsistent => (Bool.eq_false_iff.mp consistent inconsistent).elim

namespace EtherMAC

/-- A frame is being received exactly in `RECEIVING_STATE`. -/
structure Sane (m : EtherMAC) : Prop where
  frame : m.frameBeingReceived.isSome ↔ m.receiveState = .receiving
  rate : 0 ≤ m.link.bitTime

/-- What holds of the states and of the queue -/
structure Coherent (m : EtherMAC) : Prop where
  sane : m.Sane
  queued : m.transmitState.Sends → m.txQueue ≠ []
  half : m.link.duplexMode = false → m.transmitState = .transmitting → m.receiveState = .idle
  starting : m.autoconfigInProgress = true → m.transmitState = .idle ∧ m.receiveState = .idle

/-- Between the events, the timers are those of the states, and in a strict run, no frame is left in the queue
of an idle module. -/
structure Settled (strict : Prop) (m : EtherMAC) : Prop where
  coherent : m.Coherent
  armed : Armed strict m.timers m.autoconfigInProgress m.transmitState m.receiveState
  unsent : strict → m.autoconfigInProgress = false → m.txQueue ≠ [] → m.transmitState = .idle →
    m.receiveState ≠ .idle

def requests (outs : List MacOutput) : Nat := outs.count .requestPacket

structure Transmitter where
  state : TransmitState
  queue : List EtherFrame
  backoffs : Nat
  queueModule : Bool

def transmitter (m : EtherMAC) : Transmitter := ⟨m.transmitState, m.txQueue, m.backoffs, m.par.queueModule⟩

/-- What an event does to the queue, and how many frames are requested with it -/
inductive Turn (e : Event) (t t' : Transmitter) : Nat → Prop
  | keep (length : t'.queue.length = t.queue.length)
      (idle : t'.state = .idle → t.state = .idle ∨ t.queue ≠ []) : Turn e t t' 0
  | enter (arrives : ∃ frame, e = .upperLayerIn frame) (length : t'.queue.length = t.queue.length + 1)
      (state : t'.state = t.state ∨ t'.state = .waitIFG) : Turn e t t' 0
  | finish (was : t.state = .transmitting) (length : t'.queue.length + 1 = t.queue.length)
      (now : t'.state ≠ .idle) : Turn e t t' 0
  | finishLast (was : t.state = .transmitting) (length : t.queue.length = 1) (empty : t'.queue = [])
      (now : t'.state = .idle) : Turn e t t' (if t.queueModule then 1 else 0)
  | resume (ends : ∃ slotNumber, e = .selfMsg .endPause slotNumber) (before : t.queue = []) (empty : t'.queue = [])
      (now : t'.state = .idle) : Turn e t t' (if t.queueModule then 1 else 0)
  | abandon (ends : ∃ slotNumber, e = .selfMsg .endJamming slotNumber) (many : maxAttempts ≤ t.backoffs)
      (length : t'.queue.length + 1 = t.queue.length)
      (now : t'.state = .idle) : Turn e t t' 0

variable {strict : Prop} {m m' : EtherMAC} {msg : SelfMsg} {time : SimTime} {frame : EtherFrame}

theorem scheduleAt_ensures (free : ¬ m.timers.On msg) : Ensures (Quiet strict)
    (fun m' => m' = { m with timers := m.timers.schedule msg time }) (m.scheduleAt time msg) := by
  unfold scheduleAt
  rw [if_neg free]
  exact Ensures.ite (fun _ => quiet_of_consistent rfl) fun _ => rfl

theorem enter_ensures {rx : ReceiveState} (tx : TransmitState)
    (armed : Armed strict m.timers m.autoconfigInProgress .idle rx) (own : tx.timer = some msg) :
    Ensures (Quiet strict) (fun m' => ∃ timers, Armed strict timers m.autoconfigInProgress tx rx ∧
      m' = { m with timers, transmitState := tx })
      (m.scheduleAt time msg >>= fun m => return { m with transmitState := tx }) := by
  refine (scheduleAt_ensures (armed.free_tx own)).bind ?_
  rintro _ rfl
  exact ⟨_, armed.schedule_tx own, rfl⟩

theorem scheduleEndRxPeriod_ensures {tx : TransmitState}
    (armed : Armed strict m.timers m.autoconfigInProgress tx .idle) :
    Ensures (Quiet strict) (fun m' => ∃ timers, Armed strict timers m.autoconfigInProgress tx .receiving ∧
      m' = { m with timers, receiveState := .receiving }) (m.scheduleEndRxPeriod frame) := by
  refine (scheduleAt_ensures armed.free_rx).bind ?_
  rintro _ rfl
  exact ⟨_, armed.schedule_rx nofun, rfl⟩

theorem sendJamSignal_ensures {rx : ReceiveState} (armed : Armed strict m.timers m.autoconfigInProgress .idle rx) :
    Ensures (Quiet strict) (fun m' => ∃ timers, Armed strict timers m.autoconfigInProgress .jamming rx ∧
      m' = { m with sent := m.sent ++ [.physOut .jamSignal], timers, transmitState := .jamming })
      m.sendJamSignal := by
  exact enter_ensures (m := m.send (.physOut .jamSignal)) .jamming armed rfl

theorem none_enterCollision (frame : m.frameBeingReceived.isSome ↔ m.receiveState = .receiving) :
    ¬ m.enterCollision.frameBeingReceived.isSome := by
  unfold enterCollision
  by_cases receiving : m.receiveState = .receiving
  · rw [if_pos receiving]
    exact Bool.false_ne_true
  · rw [if_neg receiving]
    exact mt frame.mp receiving

theorem countInBurst_eq (m : EtherMAC) (frame : EtherFrame) : ∃ bytes frames,
    m.countInBurst frame = { m with bytesSentInBurst := bytes, framesSentInBurst := frames } := by
  unfold countInBurst
  split
  · exact ⟨_, _, rfl⟩
  · exact ⟨_, _, rfl⟩

theorem startBurst_eq (m : EtherMAC) : ∃ bytes frames,
    m.startBurst = { m with bytesSentInBurst := bytes, framesSentInBurst := frames } := by
  unfold startBurst
  split
  · exact ⟨_, _, rfl⟩
  · exact ⟨_, _, rfl⟩

theorem transmit_ensures (sane : m.Sane) (running : m.autoconfigInProgress = false)
    (armed : Armed strict m.timers m.autoconfigInProgress .idle m.receiveState) (queued : m.txQueue ≠ []) :
    Ensures (Quiet strict) (fun m' => m'.Settled strict ∧ m'.par = m.par ∧ m'.txQueue = m.txQueue ∧
      m'.transmitState.Sends ∧ ∃ outs, m'.sent = m.sent ++ outs ∧ requests outs = 0) (m.transmit frame) := by
  have ended : ∀ {p : Prop}, m.autoconfigInProgress = true → p := fun auto =>
    (Bool.false_ne_true (running.symm.trans auto)).elim
  refine Ensures.ite (fun collides => ?_) fun clear => ?_
  · refine (sendJamSignal_ensures armed).bind ?_
    rintro _ ⟨timers, armed', rfl⟩
    exact ⟨⟨⟨⟨iff_of_false (none_enterCollision sane.frame) nofun, sane.rate⟩, fun _ => queued, fun _ => nofun, ended⟩, armed'.busy_rx collides.2 nofun, fun _ _ _ => nofun⟩, rfl, rfl, ⟨nofun, nofun⟩, _, rfl, rfl⟩
  · refine (enter_ensures .transmitting armed rfl).imp ?_
    rintro _ ⟨timers, armed', rfl⟩
    refine ⟨⟨⟨⟨sane.frame, sane.rate⟩, fun _ => queued, fun half _ => ?_, ended⟩, armed', fun _ _ _ => nofun⟩,
      rfl, rfl, ⟨nofun, nofun⟩, [], (List.append_nil _).symm, rfl⟩
    by_contra busy
    exact clear ⟨Bool.eq_false_iff.mp half, busy⟩

theorem startFrameTransmission_ensures (sane : m.Sane) (running : m.autoconfigInProgress = false)
    (armed : Armed strict m.timers m.autoconfigInProgress .idle m.receiveState) (queued : m.txQueue ≠ []) :
    Ensures (Quiet strict) (fun m' => m'.Settled strict ∧ m'.par = m.par ∧ m'.txQueue = m.txQueue ∧
      m'.transmitState.Sends ∧ ∃ outs, m'.sent = m.sent ++ outs ∧ requests outs = 0) m.startFrameTransmission := by
  obtain ⟨origFrame, rest, queue⟩ := List.exists_cons_of_ne_nil queued
  have starts : ∃ bytes frames, m.startFrameTransmission = transmit { m with
      sent := m.sent ++ [.physOut (.etherFrame (addPreamble origFrame))]
      bytesSentInBurst := bytes
      framesSentInBurst := frames } (addPreamble origFrame) := by
    obtain ⟨bytes, frames, counted⟩ :=
      countInBurst_eq (m.send (.physOut (.etherFrame (addPreamble origFrame)))) (addPreamble origFrame)
    refine ⟨bytes, frames, Eq.trans ?_ (congrArg (transmit · _) counted)⟩
    unfold startFrameTransmission
    rw [queue]
  obtain ⟨bytes, frames, starts⟩ := starts
  rw [starts]
  refine (@transmit_ensures strict { m with sent := _, bytesSentInBurst := bytes, framesSentInBurst := frames }
    (addPreamble origFrame) ⟨sane.frame, sane.rate⟩ running armed queued).imp ?_
  rintro m' ⟨settled, par, same, sends, outs, sent, none⟩
  exact ⟨settled, par, same, sends, _ :: outs, sent.trans (List.append_assoc ..), none⟩

/-- The gap before the next frame -/
theorem scheduleEndIFGPeriod_ensures (sane : m.Sane) (running : m.autoconfigInProgress = false)
    (armed : Armed strict m.timers m.autoconfigInProgress .idle m.receiveState) (queued : m.txQueue ≠ []) :
    Ensures (Quiet strict) (fun m' => m'.Settled strict ∧ m'.par = m.par ∧ m'.txQueue = m.txQueue ∧
      m'.transmitState = .waitIFG ∧ m'.sent = m.sent) m.scheduleEndIFGPeriod := by
  refine (enter_ensures .waitIFG armed rfl).imp ?_
  rintro _ ⟨timers, armed', rfl⟩
  refine ⟨⟨⟨⟨sane.frame, sane.rate⟩, fun _ => queued, fun _ => nofun, ?_⟩, armed', fun _ _ _ => nofun⟩, rfl, rfl, rfl,
    rfl⟩
  exact fun auto => (Bool.false_ne_true (running.symm.trans auto)).elim

end EtherMAC

end IPv6Suite
