import IPv6Suite.AccessOperations
import IPv6Suite.Lib.Machine

namespace IPv6Suite

open Lib

/-- The queue as the states of a wireless module call it. `contest` is kept from the moment a category is sent: when each
of them would have got access. -/
structure QueueAccess where
  queue : WEQoSQueue
  now : SimTime
  contest : AppType → Option SimTime

namespace QueueAccess

def initial (maxQueueSize : Int) : QueueAccess where
  queue := WEQoSQueue.initial maxQueueSize
  now := 0
  contest := fun _ => none

inductive Call where
  | insertFrame (frame : WirelessEtherFrame)
  | startingContention
  | contentionInterrupted
  | sendingReadyFrame
  | prepareNextFrame
  | initiateRetry
  | reset
  | getters

/-- `rand` is what each category draws. -/
structure Event where
  call : Call
  time : SimTime
  rand : AppType → Nat

/-- What the states do with the queue and with the back-off timer -/
def perform (q : WEQoSQueue) (e : Event) : Exec WEQoSQueue :=
  match e.call with
  | .insertFrame frame => q.insertFrame frame e.time e.rand
  | .startingContention => do
      Exec.assert (q.getReadyFrame.isSome = true)
      let timeToSend ← q.getTimeToSend
      return { q.startingContention e.time with backoffTimer := some (e.time + timeToSend) }
  | .contentionInterrupted => do
      let q ← q.contentionInterrupted e.time
      return { q with backoffTimer := none }
  | .sendingReadyFrame => do
      Exec.assert (q.getReadyFrame.isSome = true)
      WEQoSQueue.sendingReadyFrame { q with backoffTimer := none } e.time
  | .prepareNextFrame => q.prepareNextFrame e.time e.rand
  | .initiateRetry => (·.2) <$> q.initiateRetry e.time e.rand
  | .reset => .ok { q.reset with backoffTimer := none }
  | .getters => do
      let _ ← q.getRetry
      let _ ← q.getCW
      let _ ← q.getBackoffSlots
      let _ ← q.getTimeToSend
      let _ ← q.getQueueType
      return q

def step (s : QueueAccess) (e : Event) : Exec QueueAccess := do
  let queue ← perform s.queue e
  return { queue, now := e.time, contest := match e.call with
    | .sendingReadyFrame => s.queue.accessInstant
    | _ => s.contest }

/-! ### The order of the calls -/

/-- Where the states call an operation: in the idle state, during the back-off, when the back-off timer fires, or after
the frame has been sent -/
def InPhase (q : WEQoSQueue) (time : SimTime) : Call → Prop
  | .insertFrame _ => True
  | .startingContention => q.contentionStart = false ∧ q.readyQSending = false ∧ 0 < q.size
  | .contentionInterrupted => q.contentionStart = true ∧ ∀ due ∈ q.backoffTimer, time + rxTxTurnaround ≤ due
  | .sendingReadyFrame => q.contentionStart = true ∧ q.backoffTimer = some time
  | .prepareNextFrame => q.readyQSending = true ∨ q.contentionStart = false ∧ 0 < q.size
  | .initiateRetry => q.readyQSending = true
  | .reset => True
  | .getters => ∃ AC, (q.acQ AC).readyFrame.isSome = true

instance (q : WEQoSQueue) (time : SimTime) (call : Call) : Decidable (InPhase q time call) :=
  match call with
  | .insertFrame _ | .reset => isTrue trivial
  | .startingContention => inferInstanceAs (Decidable (_ ∧ _ ∧ _))
  | .contentionInterrupted => inferInstanceAs (Decidable (_ ∧ ∀ due ∈ q.backoffTimer, _))
  | .sendingReadyFrame => inferInstanceAs (Decidable (_ ∧ _))
  | .prepareNextFrame => inferInstanceAs (Decidable (_ ∨ _ ∧ _))
  | .initiateRetry => inferInstanceAs (Decidable (_ = _))
  | .getters => inferInstanceAs (Decidable (∃ AC, (q.acQ AC).readyFrame.isSome = true))

/-- No event is later than a back-off timer that is scheduled. -/
def Admits (s : QueueAccess) (e : Event) : Prop :=
  s.now ≤ e.time ∧ (∀ due ∈ s.queue.backoffTimer, e.time ≤ due) ∧ InPhase s.queue e.time e.call
deriving Decidable

/-! ### The order in which the categories are served -/

/-- While a category is sent the others wait for the end of it. -/
def accessInstants (s : QueueAccess) : AppType → Option SimTime :=
  if s.queue.readyQSending = true then s.contest else s.queue.accessInstant

/-- What holds between the operations, for the categories that tie for the earliest access -/
structure Orderly (tied : AppType → Prop) (q : WEQoSQueue) : Prop where
  queued : ∀ AC, (q.acQ AC).readyFrame = none → (q.acQ AC).queue = []
  idle : q.servedQ = none ↔ ∀ AC, (q.acQ AC).readyFrame = none
  decided : Contest.Decided tied q.servedQ q.acQToRetry

/-- How the frames of a category change in a step -/
inductive Change (q : WEQoSQueue) (e : Event) (AC : AppType) (held : List WirelessEtherFrame) : Prop
  | kept (new : List WirelessEtherFrame) (same : held = (q.acQ AC).held ++ new)
  | completed (next : e.call = .prepareNextFrame) (served : q.servedQ = some AC) (left : held = (q.acQ AC).held.tail)
  | discarded (collided : (e.call = .prepareNextFrame ∨ e.call = .initiateRetry) ∧ q.readyQSending = true ∧
        AC ∈ q.acQToRetry ∨ e.call = .initiateRetry ∧ q.servedQ = some AC)
      (last : AC.retryLimit ≤ (q.acQ AC).retry ∨
        ∃ frame ∈ (q.acQ AC).readyFrame, frame.address1 = MACAddress6.broadcast)
      (left : held = (q.acQ AC).held.tail)
  | overflow (frame : WirelessEtherFrame) (inserts : e.call = .insertFrame frame) (category : frame.appType = AC)
      (full : 0 ≤ q.maxQueueSize ∧ q.maxQueueSize ≤ (q.acQ AC).queue.length)
      (oldest : held = (q.acQ AC).held.eraseIdx 1 ++ [{ frame with retry := true }])
  | reset (call : e.call = .reset) (left : held = [])

/-! ### When the queue does what it should -/

/-- A frame takes part in a contention that has begun. -/
def Enters (q : WEQoSQueue) (frame : WirelessEtherFrame) : Prop :=
  q.contentionStart = true ∧ (q.acQ frame.appType).readyFrame = none
deriving Decidable

/-- When the categories get access then -/
def instantsWith (q : WEQoSQueue) (frame : WirelessEtherFrame) (e : Event) : AppType → Option SimTime :=
  Function.update q.accessInstant frame.appType
    (some ((e.rand frame.appType % (frame.appType.CWmin + 1) : Nat) * slotTime + frame.appType.AIFS + e.time))

/-- No getter is called while category 0 is served, no frame is pushed out of an empty queue, and there is a category
to be found when one enters a contention. -/
def Sound (q : WEQoSQueue) (e : Event) : Prop :=
  match e.call with
  | .insertFrame frame => ¬ (q.maxQueueSize = 0 ∧ (q.acQ frame.appType).queue = []) ∧
      (Enters q frame → ∃ i, ∃ x ∈ instantsWith q frame e i, x < 99999)
  | .startingContention => q.servedQ ≠ some 0
  | .getters => q.servedQ ≠ some 0
  | _ => True

instance (q : WEQoSQueue) : (e : Event) → Decidable (Sound q e)
  | ⟨.insertFrame frame, time, rand⟩ => inferInstanceAs (Decidable (¬ (_ ∧ _) ∧
      (Enters q frame → ∃ i, ∃ x ∈ instantsWith q frame ⟨.insertFrame frame, time, rand⟩ i, x < 99999)))
  | ⟨.startingContention, _, _⟩ | ⟨.getters, _, _⟩ => inferInstanceAs (Decidable (_ ≠ _))
  | ⟨.contentionInterrupted, _, _⟩ | ⟨.sendingReadyFrame, _, _⟩ | ⟨.prepareNextFrame, _, _⟩
  | ⟨.initiateRetry, _, _⟩ | ⟨.reset, _, _⟩ => isTrue trivial

/-- The frame that enters a contention makes nobody almost as early as the earliest. -/
def Distinct (q : WEQoSQueue) (e : Event) : Prop :=
  ∀ frame, e.call = .insertFrame frame → Enters q frame → Contest.Apart precError (instantsWith q frame e)

end QueueAccess

end IPv6Suite
