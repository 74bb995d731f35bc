import IPv6Suite.EtherMACSteps
import Mathlib.Algebra.Order.Ring.Rat
import Mathlib.Tactic.Linarith

namespace IPv6Suite

open Lib

namespace EtherMAC

/-- Each state has its timer, a frame is being received exactly in `RECEIVING_STATE`, and no frame is left in the
queue of an idle module. -/
structure Consistent (m : EtherMAC) : Prop where
  waitIFG : m.transmitState = .waitIFG ↔ m.timers.On .endIFG
  transmitting : m.transmitState = .transmitting ↔ m.timers.On .endTransmission
  jamming : m.transmitState = .jamming ↔ m.timers.On .endJamming
  backoff : m.transmitState = .backoff ↔ m.timers.On .endBackoff
  pause : m.transmitState = .pause ↔ m.timers.On .endPause
  receive : m.receiveState ≠ .idle ↔ m.timers.On .endReception
  frame : m.frameBeingReceived ≠ none ↔ m.receiveState = .receiving
  unsent : m.autoconfigInProgress = false → m.txQueue ≠ [] →
    ¬ (m.transmitState = .idle ∧ m.receiveState = .idle)

/-- A step that reports no inconsistent state, and leaves a consistent one -/
def Kept (m : EtherMAC) (e : SimTime × Event) : Prop :=
  Ensures (fun fault => fault.inconsistent = false) Consistent (m.handle e)

variable {m : EtherMAC} {frame : EtherFrame} {units : BitVec 32}

variable {strict : Prop} {msg : SelfMsg}

theorem state_of_on (settled : m.Settled strict) {tx : TransmitState}
    (own : tx.timer = some msg) (on : m.timers.On msg) : m.transmitState = tx := by
  obtain ⟨_, auto⟩ | sends | receives := settled.armed.1 msg on
  · exact absurd auto (TransmitState.timer_ne own).2
  · revert sends own
    cases tx <;> cases m.transmitState <;> rintro ⟨⟩ ⟨⟩ <;> rfl
  · exact absurd (ReceiveState.timer_eq receives) (TransmitState.timer_ne own).1

theorem on_timer (settled : m.Settled True) {tx : TransmitState} (own : tx.timer = some msg) :
    m.transmitState = tx ↔ m.timers.On msg :=
  ⟨fun state => settled.armed.2 trivial msg (.inr (.inl (state ▸ own))), state_of_on settled own⟩

theorem on_endReception (settled : m.Settled True) : m.receiveState ≠ .idle ↔ m.timers.On .endReception := by
  refine ⟨fun busy => settled.armed.2 trivial _ (.inr (.inr (ReceiveState.timer_of_busy busy))), fun on clear => ?_⟩
  have armed := settled.armed
  rw [clear] at armed
  exact armed.free_rx on

theorem Settled.consistent (settled : m.Settled True) : m.Consistent where
  waitIFG := on_timer settled rfl
  transmitting := on_timer settled rfl
  jamming := on_timer settled rfl
  backoff := on_timer settled rfl
  pause := on_timer settled rfl
  receive := on_endReception settled
  frame := Option.isSome_iff_ne_none.symm.trans settled.coherent.sane.frame
  unsent := fun running queued both => settled.unsent trivial running queued both.1 both.2

theorem Consistent.awaited (consistent : m.Consistent) (running : m.autoconfigInProgress = false)
    (queued : m.txQueue ≠ []) : ∃ msg, m.timers.On msg := by
  cases state : m.transmitState with
  | idle => exact ⟨_, consistent.receive.mp fun clear => consistent.unsent running queued ⟨state, clear⟩⟩
  | waitIFG => exact ⟨_, consistent.waitIFG.mp state⟩
  | transmitting => exact ⟨_, consistent.transmitting.mp state⟩
  | jamming => exact ⟨_, consistent.jamming.mp state⟩
  | backoff => exact ⟨_, consistent.backoff.mp state⟩
  | pause => exact ⟨_, consistent.pause.mp state⟩

theorem settled_start (strict : Prop) (par : MacParameters) : (start par).Settled strict where
  coherent := ⟨⟨iff_of_false Bool.false_ne_true nofun, le_rfl⟩, fun sends => (sends.1 rfl).elim, fun _ => nofun,
    fun _ => ⟨rfl, rfl⟩⟩
  armed := (Alarms.held_idle strict 0).schedule fun j => by
    unfold Due
    change (true = true ∧ j = .endAutoconfig) ∨ none = some j ∨ none = some j ↔ j = .endAutoconfig ∨ False
    grind
  unsent := fun _ running => nomatch running

theorem step_eq {m m' : EtherMAC} {e : SimTime × Event} (steps : m.step e = .ok m') : m.handle e = .ok m' := by
  unfold step at steps
  cases result : m.handle e with
  | ok next =>
      rw [result] at steps
      cases steps
      rfl
  | error fault =>
      rw [result] at steps
      cases steps

theorem settled_run {m₀ m : EtherMAC} {es : List (SimTime × Event)} (settled : m₀.Settled strict)
    (runs : Runs step (fun m e => m.Admits e ∧ (strict → m.Sound e)) m₀ es m) : m.Settled strict := by
  refine runs.invariant (Settled strict) (fun m e m' settled meets steps => ?_) settled
  exact ((handle_moves settled meets.1 meets.2).of_ok (step_eq steps)).1

theorem completeReception_stuck (state : m.transmitState = .pause) (received : m.frameBeingReceived = some frame)
    (kind : frame.kind = .ethPause units) (none : ¬ 0 < units.toInt) :
    m.completeReception = .ok (cancelEvent { m with frameBeingReceived := .none } .endPause) := by
  unfold completeReception
  rw [received]
  change frameReceptionComplete _ frame = _
  unfold frameReceptionComplete
  rw [kind]
  change processPauseCommand _ units = _
  unfold processPauseCommand
  rw [show ({ m with frameBeingReceived := .none } : EtherMAC).transmitState = .pause from state]
  exact if_neg none

/-- A PAUSE frame of no time, completed in the PAUSE state, leaves it without its timer. -/
def Stuck (m : EtherMAC) : Prop := m.transmitState = .pause ∧ ¬ m.timers.On .endPause

theorem not_consistent_of_stuck (stuck : m.Stuck) : ¬ m.Consistent :=
  fun consistent => stuck.2 (consistent.pause.mp stuck.1)

theorem handleEndRxPeriod_stuck (receiving : m.receiveState = .receiving) (state : m.transmitState = .pause)
    (received : m.frameBeingReceived = some frame) (kind : frame.kind = .ethPause units)
    (none : ¬ 0 < units.toInt) : Ensures (fun _ => False) Stuck m.handleEndRxPeriod := by
  unfold handleEndRxPeriod
  rw [if_pos receiving, completeReception_stuck state received kind none]
  refine Ensures.ite (fun waiting => ?_) fun _ => ⟨state, fun on => ?_⟩
  · cases state.symm.trans waiting.1
  · exact ((Alarms.on_cancel _ _ _).mp on).1 rfl

theorem scheduleEndRxPeriod_returns {post : EtherMAC → Prop} (free : ¬ m.timers.On .endReception)
    (rate : 0 ≤ m.link.bitTime) (holds : ∀ time, post { m with
      timers := m.timers.schedule .endReception time, receiveState := .receiving }) :
    Ensures (fun _ => False) post (m.scheduleEndRxPeriod frame) := by
  have ahead : ¬ m.now + frame.length * m.link.bitTime < m.now := by
    have := mul_nonneg (Nat.cast_nonneg (α := ℚ) frame.length) rate
    linarith
  unfold scheduleEndRxPeriod scheduleAt
  rw [if_neg free, if_neg ahead]
  exact holds _

theorem nextReception_stuck {next : EtherFrame} (rate : 0 ≤ m.link.bitTime) (state : m.transmitState = .pause)
    (received : m.frameBeingReceived = some frame) (kind : frame.kind = .ethPause units)
    (none : ¬ 0 < units.toInt) : Ensures (fun _ => False) Stuck (m.nextReception next) := by
  have free : ¬ ((m.timers.cancel .endReception).cancel .endPause).On .endReception := fun on =>
    ((Alarms.on_cancel _ _ _).mp ((Alarms.on_cancel _ _ _).mp on).2).1 rfl
  unfold nextReception
  rw [completeReception_stuck (m := m.cancelEvent .endReception) state received kind none]
  change Ensures _ _ (scheduleEndRxPeriod _ _)
  refine scheduleEndRxPeriod_returns free rate fun time => ⟨state, fun on => ?_⟩
  obtain other | on := (Alarms.on_schedule _ _ _ _).mp on
  · cases other
  · exact ((Alarms.on_cancel _ _ _).mp on).1 rfl

variable {time : SimTime} {slotNumber : Nat}

theorem handle_timer (tx : TransmitState)
    (settled : m.Settled strict) (own : tx.timer = some msg) (on : m.timers.On msg) :
    m.handle (time, .selfMsg msg slotNumber) =
      (m.deliver time (.selfMsg msg slotNumber)).dispatch (.selfMsg msg slotNumber) := by
  have running : m.autoconfigInProgress = false := running_of_transmits settled.coherent fun idle => by
    rw [(state_of_on settled own on).symm.trans idle] at own
    cases own
  exact handleMessage_running (settled.coherent.deliver time _) running

theorem handle_endPause (settled : m.Settled strict)
    (on : m.timers.On .endPause) (empty : m.txQueue = []) : m.handle (time, .selfMsg .endPause slotNumber) =
      .ok (requestFrame { m.deliver time (.selfMsg .endPause slotNumber) with transmitState := .idle }) := by
  have state : m.transmitState = .pause := state_of_on settled rfl on
  refine (handle_timer .pause settled rfl on).trans ((if_neg (not_not.mpr state)).trans (if_neg ?_))
  exact not_not.mpr empty

/-- A frame is given up. -/
theorem handle_endJamming (settled : m.Settled strict)
    (on : m.timers.On .endJamming) (many : maxAttempts ≤ m.backoffs) :
    m.handle (time, .selfMsg .endJamming slotNumber) = .ok { m.deliver time (.selfMsg .endJamming slotNumber) with
      txQueue := m.txQueue.tail, transmitState := .idle, backoffs := 0 } := by
  have state : m.transmitState = .jamming := state_of_on settled rfl on
  exact (handle_timer .jamming settled rfl on).trans
    ((if_neg (not_not.mpr state)).trans (if_pos (Nat.lt_succ_of_le many)))

/-- A step that is not sound reports an inconsistent state or leaves one. -/
theorem sound_of_kept {e : SimTime × Event} (settled : m.Settled True) (admits : m.Admits e) (kept : m.Kept e) :
    m.Sound e := by
  obtain ⟨time, e⟩ := e
  intro running
  have coherent' := settled.coherent.deliver time e
  have running' : (m.deliver time e).autoconfigInProgress = false := by cases e <;> exact running
  have dispatched : Ensures (fun fault => fault.inconsistent = false) Consistent ((m.deliver time e).dispatch e) := by
    have := handleMessage_running (e := e) coherent' running'
    rw [← this]
    exact kept
  have unstuck : ¬ Ensures (fun _ => False) Stuck ((m.deliver time e).dispatch e) := fun stuck => by
    cases result : (m.deliver time e).dispatch e with
    | ok m' => exact not_consistent_of_stuck (stuck.of_ok result) (dispatched.of_ok result)
    | error fault => exact stuck.of_error result
  cases e with
  | upperLayerIn frame => trivial
  | physIn msg sendingTime =>
      intro short
      refine ⟨?_, ?_⟩
      · rintro rfl busy
        by_contra none
        have half : ¬ (¬ m.link.duplexMode ∧ m.transmitState = .transmitting) := fun both =>
          busy (settled.coherent.half (Bool.eq_false_iff.mpr both.1) both.2)
        have fails : (m.deliver time (.physIn .jamSignal sendingTime)).dispatch (.physIn .jamSignal sendingTime) =
            .error .jamArrival :=
          (if_neg short).trans ((if_neg half).trans ((if_neg busy).trans (if_pos (Nat.not_lt.mp none))))
        cases dispatched.of_error fails
      · intro isFrame back state frame received units pauses
        by_contra none
        cases msg with
        | jamSignal | autoconfig => cases isFrame
        | etherFrame next =>
            have busy : ¬ m.receiveState = .idle := fun clear => by cases back.1.symm.trans clear
            have half : ¬ (¬ m.link.duplexMode ∧ m.transmitState = .transmitting) := fun both => by
              cases state.symm.trans both.2
            refine unstuck ?_
            have starts : (m.deliver time (.physIn (.etherFrame next) sendingTime)).dispatch
                (.physIn (.etherFrame next) sendingTime) = nextReception _ next :=
              (if_neg short).trans ((if_neg half).trans ((if_neg busy).trans (if_pos back)))
            rw [starts]
            exact nextReception_stuck settled.coherent.sane.rate state received (frame.kind_of pauses) none
  | selfMsg msg slotNumber =>
      cases msg with
      | endReception =>
          intro receiving state frame received units pauses
          by_contra none
          exact unstuck (handleEndRxPeriod_stuck receiving state received (frame.kind_of pauses) none)
      | endJamming =>
          intro many clear
          by_contra more
          have gives := @handle_endJamming m True time slotNumber settled admits.2.2.1 many
          refine (kept.of_ok gives).unsent running (fun empty => more ?_) ⟨rfl, clear⟩
          have length := congrArg List.length empty
          rw [List.length_tail, List.length_nil] at length
          exact Nat.le_of_sub_eq_zero length
      | endIFG | endBackoff | endTransmission | endPause | endAutoconfig => trivial

end EtherMAC

/-- In a run of sound steps, the states and the timers stay consistent and a queued frame waits for a timer. In
each state of it, the sound steps are those that report no inconsistent state and leave a consistent one. -/
theorem ethermac_consistent (par : MacParameters) {es : List (SimTime × EtherMAC.Event)} {m : EtherMAC}
    (runs : Runs EtherMAC.step (fun m e => m.Admits e ∧ m.Sound e) (.start par) es m) :
    m.Consistent ∧ (m.autoconfigInProgress = false → m.txQueue ≠ [] → ∃ msg, m.timers.On msg) ∧
      ∀ e, m.Admits e → (m.Kept e ↔ m.Sound e) := by
  have settled : m.Settled True := EtherMAC.settled_run (EtherMAC.settled_start True par)
    (runs.mono fun _ _ both => ⟨both.1, fun _ => both.2⟩)
  refine ⟨settled.consistent, settled.consistent.awaited, fun e admits => ⟨EtherMAC.sound_of_kept settled admits,
    fun sound => ?_⟩⟩
  refine (EtherMAC.handle_moves settled admits fun _ => sound).mono (fun m' moves => moves.1.consistent)
    fun fault quiet => ?_
  by_contra inconsistent
  exact (quiet (Bool.not_eq_false _ ▸ inconsistent)).2 trivial

def exampleMac (duplexEnabled : Bool) : MacParameters := ⟨1, false, 0, false, 100000000, duplexEnabled⟩

def exampleData : EtherFrame := ⟨.ethFrame, 2, 3, 512, false⟩

def examplePause (pauseTime : BitVec 32) : EtherFrame := ⟨.ethPause pauseTime, 2, 3, 576, false⟩

/-- The time of a bit after the autoconfiguration, at 100 Mb -/
def bitAt (bit : Nat) : SimTime := autoconfigPeriod + bit / fastEthernetTxrate

/-- The autoconfiguration ends, a PAUSE frame of ten units is received, and a frame is queued. -/
def pauseRun : List (SimTime × EtherMAC.Event) :=
  [(autoconfigPeriod, .selfMsg .endAutoconfig 0),
    (bitAt 0, .physIn (.etherFrame (examplePause 10)) (bitAt 0)), (bitAt 576, .selfMsg .endReception 0),
    (bitAt 600, .upperLayerIn exampleData)]

theorem ethermac_consistent_paused : ∃ m, Runs EtherMAC.step (fun m e => m.Admits e ∧ m.Sound e)
      (.start (exampleMac true)) pauseRun m ∧ m.transmitState = .pause ∧ m.txQueue = [exampleData] ∧ m.Consistent ∧
    ∃ msg, m.timers.On msg := by
  have checked : (run (fun m e => Exec.assert (m.Admits e ∧ m.Sound e) >>= fun _ => m.step e)
      (EtherMAC.start (exampleMac true)) pauseRun).map (fun m => decide (m.transmitState = .pause ∧
        m.txQueue = [exampleData] ∧ m.autoconfigInProgress = false)) = .ok true := by
    decide +kernel
  obtain ⟨m, runs, same⟩ := map_eq_ok checked
  obtain ⟨state, queue, running⟩ := of_decide_eq_true same
  obtain ⟨consistent, awaited, _⟩ := ethermac_consistent (exampleMac true) (Runs.of_checked runs)
  exact ⟨m, Runs.of_checked runs, state, queue, consistent, awaited running (by rw [queue]; exact List.cons_ne_nil _ _)⟩

/-- A frame begins in the gap, collides with another one, and is over before the jam signal is. -/
def collisionRound (bit : Nat) : List (SimTime × EtherMAC.Event) :=
  [(bitAt (bit + 1), .physIn (.etherFrame exampleData) (bitAt bit)),
    (bitAt (bit + 70), .physIn .jamSignal (bitAt (bit + 69))), (bitAt (bit + 96), .selfMsg .endIFG 0),
    (bitAt (bit + 102), .selfMsg .endReception 0), (bitAt (bit + 128), .selfMsg .endJamming 0)]

/-- Two frames are queued, and the first one is given up after seventeen collisions. -/
def giveUpRun : List (SimTime × EtherMAC.Event) :=
  [(0, .upperLayerIn exampleData), (0, .upperLayerIn exampleData), (autoconfigPeriod, .selfMsg .endAutoconfig 0)] ++
    ((List.range 16).flatMap fun i =>
      collisionRound (128 * i) ++ [(bitAt (128 * i + 128), .selfMsg .endBackoff 0)]) ++ collisionRound (128 * 16)

/-- In the PAUSE state after a PAUSE frame of no time, and idle after a frame that is given up, a frame is queued
and no timer is scheduled. -/
theorem ethermac_consistent_fails :
    (∃ m, Runs EtherMAC.step (fun m e => m.Admits e) (.start (exampleMac true))
      (pauseRun ++ [(bitAt 700, .physIn (.etherFrame (examplePause 0)) (bitAt 700)),
        (bitAt 1276, .selfMsg .endReception 0)]) m ∧
      m.transmitState = .pause ∧ m.txQueue = [exampleData] ∧ ∀ msg, ¬ m.timers.On msg) ∧
    ∃ m, Runs EtherMAC.step (fun m e => m.Admits e) (.start (exampleMac false)) giveUpRun m ∧
      m.transmitState = .idle ∧ m.receiveState = .idle ∧ m.txQueue = [exampleData] ∧ ∀ msg, ¬ m.timers.On msg := by
  have paused : (run (fun m e => Exec.assert (m.Admits e) >>= fun _ => m.step e)
      (EtherMAC.start (exampleMac true)) (pauseRun ++
        [(bitAt 700, .physIn (.etherFrame (examplePause 0)) (bitAt 700)),
          (bitAt 1276, .selfMsg .endReception 0)])).map (fun m => decide (m.transmitState = .pause ∧
        m.txQueue = [exampleData] ∧ ∀ msg, ¬ m.timers.On msg)) = .ok true := by
    decide +kernel
  have givenUp : (run (fun m e => Exec.assert (m.Admits e) >>= fun _ => m.step e)
      (EtherMAC.start (exampleMac false)) giveUpRun).map (fun m => decide (m.transmitState = .idle ∧
        m.receiveState = .idle ∧ m.txQueue = [exampleData] ∧ ∀ msg, ¬ m.timers.On msg)) = .ok true := by
    decide +kernel
  obtain ⟨m, runs, same⟩ := map_eq_ok paused
  obtain ⟨m', runs', same'⟩ := map_eq_ok givenUp
  exact ⟨⟨m, Runs.of_checked runs, of_decide_eq_true same⟩, m', Runs.of_checked runs', of_decide_eq_true same'⟩

end IPv6Suite
