import IPv6Suite.EtherMACRuns
import IPv6Suite.Lib.PriorityQueues

namespace IPv6Suite

open Lib

/-- A passive queue with one queue for each class. The queue 0 has the highest priority. -/
structure DropTailQoSQueue (α : Type) where
  packetRequested : Nat
  frameCapacity : Int
  queues : PriorityQueues α
deriving DecidableEq

namespace DropTailQoSQueue

variable {α : Type}

def create (numQueues : Nat) (frameCapacity : Int) : DropTailQoSQueue α :=
  ⟨0, frameCapacity, List.replicate numQueues []⟩

/-- Whether the packet is dropped. The classifier gives the number of a queue. -/
def enqueue (classifyPacket : α → Nat) (q : DropTailQoSQueue α) (msg : α) : Exec (Bool × DropTailQoSQueue α) := do
  let queueIndex := classifyPacket msg
  let queue ← Exec.deref .outOfBounds q.queues[queueIndex]?
  if q.frameCapacity ≠ 0 ∧ q.frameCapacity ≤ queue.length then return (true, q)
  else return (false, { q with queues := q.queues.insert queueIndex msg })

def dequeue (q : DropTailQoSQueue α) : Option α × DropTailQoSQueue α :=
  match PriorityQueues.pop q.queues with
  | none => (none, q)
  | some (msg, queues) => (some msg, { q with queues })

/-- A packet is sent if one has been requested, and else enqueued. What is sent, and whether it is dropped -/
def handleMessage (classifyPacket : α → Nat) (q : DropTailQoSQueue α) (msg : α) :
    Exec (Option α × Bool × DropTailQoSQueue α) :=
  if 0 < q.packetRequested then .ok (some msg, false, { q with packetRequested := q.packetRequested - 1 })
  else do
    let (dropped, q) ← q.enqueue classifyPacket msg
    return (none, dropped, q)

/-- What is sent -/
def requestPacket (q : DropTailQoSQueue α) : Option α × DropTailQoSQueue α :=
  match q.dequeue with
  | (none, q) => (none, { q with packetRequested := q.packetRequested + 1 })
  | (some msg, q) => (some msg, q)

end DropTailQoSQueue

def DropTailQueue.create {α : Type} (frameCapacity : Int) : DropTailQoSQueue α := .create 1 frameCapacity

/-- A module and its queue module: `underway` is what the queue has sent and what has not arrived yet,
`accepted` what the queue has not dropped, and `arrived` what has arrived. -/
structure QueuedMAC (α : Type) where
  mac : EtherMAC
  queue : DropTailQoSQueue α
  underway : List α
  accepted : List α
  arrived : List α

namespace QueuedMAC

variable {α : Type}

/-- The first frame is requested when the module is initialised. -/
def start (par : MacParameters) (numQueues : Nat) (frameCapacity : Int) : QueuedMAC α :=
  ⟨.start par, (DropTailQoSQueue.create numQueues frameCapacity).requestPacket.2, [], [], []⟩

/-- A packet arrives at the queue, or from the queue at the module, or something else happens at the module. -/
inductive Event (α : Type) where
  | queueIn (msg : α)
  | upperLayerIn
  | mac (e : EtherMAC.Event)

def requestPacket (s : QueuedMAC α) : QueuedMAC α :=
  { s with queue := s.queue.requestPacket.2, underway := s.underway ++ s.queue.requestPacket.1.toList }

def request (s : QueuedMAC α) : Nat → QueuedMAC α
  | 0 => s
  | n + 1 => s.requestPacket.request n

/-- The requests are calls from within the event of the module. -/
def stepMac (s : QueuedMAC α) (e : SimTime × EtherMAC.Event) : Exec (QueuedMAC α) := do
  let mac ← s.mac.step e
  return { s with mac }.request ((mac.sent.drop s.mac.sent.length).count MacOutput.requestPacket)

/-- `encapsulate` is what makes a frame of a packet on its way. -/
def step (classifyPacket : α → Nat) (encapsulate : α → EtherFrame) (s : QueuedMAC α) (e : SimTime × Event α) :
    Exec (QueuedMAC α) :=
  match e.2 with
  | .queueIn msg => do
      let (out, dropped, queue) ← s.queue.handleMessage classifyPacket msg
      return { s with
        mac := { s.mac with now := e.1 }
        queue
        underway := s.underway ++ out.toList
        accepted := if dropped then s.accepted else s.accepted ++ [msg] }
  | .upperLayerIn => do
      let msg ← Exec.deref .outOfBounds s.underway.head?
      stepMac { s with underway := s.underway.tail, arrived := s.arrived ++ [msg] }
        (e.1, .upperLayerIn (encapsulate msg))
  | .mac e' => s.stepMac (e.1, e')

/-- The clock does not pass a timer or a packet that is underway, and the frames come from the queue alone. -/
def Admits (s : QueuedMAC α) (e : SimTime × Event α) : Prop :=
  s.mac.now ≤ e.1 ∧ (∀ msg, s.mac.timers.On msg → e.1 ≤ (s.mac.timers msg).arrivalTime) ∧
    (s.underway ≠ [] → e.1 = s.mac.now) ∧
      match e.2 with
      | .queueIn _ | .upperLayerIn => True
      | .mac (.upperLayerIn _) => False
      | .mac e' => s.mac.Admits (e.1, e')

instance (s : QueuedMAC α) (e : SimTime × Event α) : Decidable (s.Admits e) := by
  unfold Admits
  obtain ⟨time, _ | _ | _ | _ | _⟩ := e <;> infer_instance

end QueuedMAC

namespace QueuedMAC

variable {α : Type} {classifyPacket : α → Nat} {encapsulate : α → EtherFrame} {s s' : QueuedMAC α}

/-- The requests that are outstanding: a packet that is underway has not reached the module yet. -/
def outstanding (s : QueuedMAC α) : Nat := s.queue.packetRequested + s.underway.length

/-- A request waits only while every queue is empty, and the packets leave their classes in the order they were
accepted in, each one once. -/
structure Filed (classifyPacket : α → Nat) (s : QueuedMAC α) : Prop where
  empty : 0 < s.queue.packetRequested → ∀ q ∈ s.queue.queues, q = []
  sorted : s.queue.queues.Sorted classifyPacket
  accounts : s.queue.queues.Accounts classifyPacket s.accepted (s.arrived ++ s.underway)

/-- No packet of a higher priority waits when one leaves the queue. -/
def Prefers (classifyPacket : α → Nat) (s s' : QueuedMAC α) : Prop :=
  ∀ outs, s'.underway = s.underway ++ outs → ∀ msg ∈ outs, ∀ c, c < classifyPacket msg →
    s.queue.queues.waiting c = []

theorem request_frame (s : QueuedMAC α) (n : Nat) :
    (s.request n).mac = s.mac ∧ (s.request n).accepted = s.accepted ∧ (s.request n).arrived = s.arrived := by
  induction n generalizing s with
  | zero => exact ⟨rfl, rfl, rfl⟩
  | succ n ih => exact ih s.requestPacket

theorem requestPacket_cases (s : QueuedMAC α) :
    (∀ q ∈ s.queue.queues, q = []) ∧ s.requestPacket =
      { s with queue := { s.queue with packetRequested := s.queue.packetRequested + 1 } } ∨
    ∃ msg queues, PriorityQueues.pop s.queue.queues = some (msg, queues) ∧ s.requestPacket =
      { s with queue := { s.queue with queues }, underway := s.underway ++ [msg] } := by
  unfold requestPacket DropTailQoSQueue.requestPacket DropTailQoSQueue.dequeue
  cases popped : PriorityQueues.pop s.queue.queues with
  | none => exact .inl ⟨PriorityQueues.pop_eq_none.mp popped, by rw [Option.toList_none, List.append_nil]⟩
  | some result => exact .inr ⟨result.1, result.2, rfl, rfl⟩

theorem outstanding_request (s : QueuedMAC α) (n : Nat) : (s.request n).outstanding = s.outstanding + n := by
  induction n generalizing s with
  | zero => rfl
  | succ n ih =>
      refine (ih s.requestPacket).trans ?_
      obtain ⟨_, asks⟩ | ⟨msg, queues, _, asks⟩ := requestPacket_cases s
      · rw [asks]
        simp only [outstanding]
        omega
      · rw [asks]
        simp only [outstanding, List.length_append, List.length_singleton]
        omega

theorem filed_request (filed : s.Filed classifyPacket) (n : Nat) : (s.request n).Filed classifyPacket := by
  induction n generalizing s with
  | zero => exact filed
  | succ n ih =>
      refine @ih s.requestPacket ?_
      obtain ⟨empty, asks⟩ | ⟨msg, queues, popped, asks⟩ := requestPacket_cases s
      · rw [asks]
        exact ⟨fun _ => empty, filed.sorted, filed.accounts⟩
      · obtain ⟨accounts, sorted, _⟩ := filed.accounts.pop filed.sorted popped
        rw [asks]
        refine ⟨fun requested => ?_, sorted, ?_⟩
        · rw [PriorityQueues.pop_eq_none.mpr (filed.empty requested)] at popped
          cases popped
        · rw [List.append_assoc] at accounts
          exact accounts

variable {n : Nat}

theorem prefers_request (filed : s.Filed classifyPacket) (single : n ≤ 1) :
    Prefers classifyPacket s (s.request n) := by
  intro outs sends msg member c lower
  match n, single with
  | 0, _ =>
      have nothing : s.underway ++ [] = s.underway ++ outs := (List.append_nil _).trans sends
      cases List.append_cancel_left nothing
      cases member
  | 1, _ =>
      change s.requestPacket.underway = _ at sends
      obtain ⟨_, asks⟩ | ⟨first, queues, popped, asks⟩ := requestPacket_cases s
      · rw [asks] at sends
        have nothing : s.underway ++ [] = s.underway ++ outs := (List.append_nil _).trans sends
        cases List.append_cancel_left nothing
        cases member
      · rw [asks] at sends
        cases List.append_cancel_left sends
        cases List.mem_singleton.mp member
        exact (filed.accounts.pop filed.sorted popped).2.2 c lower

variable {time : SimTime} {msg : α}

theorem queueIn_cases (steps : step classifyPacket encapsulate s (time, .queueIn msg) = .ok s') :
    (0 < s.queue.packetRequested ∧ s' = { s with
        mac := { s.mac with now := time }
        queue := { s.queue with packetRequested := s.queue.packetRequested - 1 }
        underway := s.underway ++ [msg], accepted := s.accepted ++ [msg] }) ∨
    s' = { s with mac := { s.mac with now := time } } ∨
    (s.queue.packetRequested = 0 ∧ classifyPacket msg < List.length s.queue.queues ∧ s' = { s with
        mac := { s.mac with now := time }
        queue := { s.queue with queues := s.queue.queues.insert (classifyPacket msg) msg }
        accepted := s.accepted ++ [msg] }) := by
  obtain ⟨⟨out, dropped, queue⟩, handles, ends⟩ := bind_eq_ok.mp steps
  unfold DropTailQoSQueue.handleMessage at handles
  split at handles
  case isTrue requested =>
    cases handles
    cases ends
    exact .inl ⟨requested, rfl⟩
  case isFalse none =>
    obtain ⟨⟨drops, q⟩, enqueues, same⟩ := bind_eq_ok.mp handles
    cases same
    cases ends
    obtain ⟨waiting, located, enqueues⟩ := bind_eq_ok.mp enqueues
    have within := (List.getElem?_eq_some_iff.mp ((deref_eq_ok _ _ _).mp located)).1
    split at enqueues
    · cases enqueues
      exact .inr (.inl (by rw [Option.toList_none, List.append_nil]; rfl))
    · cases enqueues
      refine .inr (.inr ⟨Nat.eq_zero_of_not_pos none, within, ?_⟩)
      rw [Option.toList_none, List.append_nil]
      rfl

theorem filed_queueIn (filed : s.Filed classifyPacket)
    (steps : step classifyPacket encapsulate s (time, .queueIn msg) = .ok s') :
    s'.Filed classifyPacket ∧ Prefers classifyPacket s s' := by
  obtain ⟨requested, rfl⟩ | rfl | ⟨none, within, rfl⟩ := queueIn_cases steps
  · refine ⟨⟨fun _ => filed.empty requested, filed.sorted, ?_⟩, fun outs sends msg' member c _ => ?_⟩
    · rw [← List.append_assoc]
      exact filed.accounts.pass (filed.empty requested) msg
    · exact PriorityQueues.waiting_of_empty (filed.empty requested) c
  · refine ⟨⟨filed.empty, filed.sorted, filed.accounts⟩, fun outs sends msg' member c _ => ?_⟩
    have nothing : s.underway ++ [] = s.underway ++ outs := (List.append_nil _).trans sends
    cases List.append_cancel_left nothing
    cases member
  · refine ⟨⟨fun requested => ?_, filed.sorted.insert within, filed.accounts.insert within⟩,
      fun outs sends msg' member c _ => ?_⟩
    · exact absurd none requested.ne'
    · have nothing : s.underway ++ [] = s.underway ++ outs := (List.append_nil _).trans sends
      cases List.append_cancel_left nothing
      cases member

/-- What holds in every run: the module is between two events, and the queue is in order. -/
structure Based (classifyPacket : α → Nat) (s : QueuedMAC α) : Prop where
  module : s.mac.par.queueModule = true
  settled : s.mac.Settled False
  filed : s.Filed classifyPacket

theorem mac_cases {e : EtherMAC.Event} (settled : s.mac.Settled False)
    (admits : s.Admits (time, .mac e)) (steps : s.stepMac (time, e) = .ok s') :
    ∃ mac n, s.mac.handle (time, e) = .ok mac ∧ mac.Settled False ∧ mac.par = s.mac.par ∧
      EtherMAC.Turn e s.mac.transmitter mac.transmitter n ∧ s' = { s with mac }.request n := by
  obtain ⟨mac, handles, ends⟩ := bind_eq_ok.mp steps
  cases ends
  have handles := EtherMAC.step_eq handles
  have allowed : s.mac.Admits (time, e) := by
    obtain ⟨_, _, _, allowed⟩ := admits
    cases e with
    | upperLayerIn frame => exact allowed.elim
    | physIn msg sendingTime => exact allowed
    | selfMsg msg slotNumber => exact allowed
  obtain ⟨settled', par, outs, sent, turn⟩ := (EtherMAC.handle_moves settled allowed False.elim).of_ok handles
  refine ⟨mac, _, handles, settled', par, turn, ?_⟩
  rw [sent, List.drop_left]
  rfl

theorem upperLayerIn_cases (settled : s.mac.Settled False)
    (steps : step classifyPacket encapsulate s (time, .upperLayerIn) = .ok s') :
    ∃ mac msg rest, s.underway = msg :: rest ∧ EtherMAC.Enters False s.mac mac ∧
      s' = { s with mac, underway := rest, arrived := s.arrived ++ [msg] } := by
  obtain ⟨msg, first, steps⟩ := bind_eq_ok.mp steps
  obtain ⟨mac, handles, ends⟩ := bind_eq_ok.mp steps
  cases ends
  obtain ⟨rest, queue⟩ := List.head?_eq_some_iff.mp ((deref_eq_ok _ _ _).mp first)
  have enters := (EtherMAC.handle_enters settled).of_ok (EtherMAC.step_eq handles)
  refine ⟨mac, msg, rest, queue, enters, ?_⟩
  rw [enters.sent, List.drop_length, queue]
  rfl

theorem requests_le {e : EtherMAC.Event} {t t' : EtherMAC.Transmitter} (turn : EtherMAC.Turn e t t' n) : n ≤ 1 := by
  cases turn <;> first | exact Nat.zero_le 1 | (split <;> decide)

variable {e : SimTime × Event α}

theorem based_step (based : s.Based classifyPacket) (admits : s.Admits e)
    (steps : step classifyPacket encapsulate s e = .ok s') :
    s'.Based classifyPacket ∧ Prefers classifyPacket s s' := by
  obtain ⟨module, settled, filed⟩ := based
  obtain ⟨time, msg | _ | e⟩ := e
  · obtain ⟨filed', prefers⟩ := filed_queueIn filed steps
    refine ⟨⟨?_, ?_, filed'⟩, prefers⟩
    all_goals obtain ⟨_, rfl⟩ | rfl | ⟨_, _, rfl⟩ := queueIn_cases steps
    all_goals first | exact module | exact ⟨⟨⟨settled.coherent.sane.frame, settled.coherent.sane.rate⟩,
      settled.coherent.queued, settled.coherent.half, settled.coherent.starting⟩, settled.armed, settled.unsent⟩
  · obtain ⟨mac, msg, rest, queue, enters, rfl⟩ := upperLayerIn_cases settled steps
    refine ⟨⟨enters.par ▸ module, enters.settled, filed.empty, filed.sorted, ?_⟩, fun outs sends => ?_⟩
    · have accounts := filed.accounts
      rw [queue] at accounts
      rw [List.append_assoc]
      exact accounts
    · have length := congrArg List.length sends
      rw [queue, List.length_append, List.length_cons] at length
      change rest.length = _ at length
      omega
  · obtain ⟨mac, n, _, settled', par, turn, rfl⟩ := mac_cases settled admits steps
    have filed' : Filed classifyPacket { s with mac } := ⟨filed.empty, filed.sorted, filed.accounts⟩
    obtain ⟨same, _⟩ := request_frame { s with mac } n
    exact ⟨⟨by rw [same]; exact par ▸ module, by rw [same]; exact settled', filed_request filed' n⟩,
      prefers_request filed' (requests_le turn)⟩

/-- At most one request is outstanding, and one is while the module is idle with nothing to send. -/
structure Orderly (s : QueuedMAC α) : Prop where
  single : s.outstanding ≤ 1
  asked : s.mac.autoconfigInProgress = false → s.mac.transmitState = .idle → s.mac.txQueue = [] →
    s.outstanding = 1

/-- A pause with nothing to send ends only while no request is outstanding, and no frame is given up. -/
def Sound (s : QueuedMAC α) (e : SimTime × Event α) : Prop :=
  match e.2 with
  | .mac (.selfMsg .endPause _) => s.mac.txQueue = [] → s.outstanding = 0
  | .mac (.selfMsg .endJamming _) => s.mac.backoffs < maxAttempts
  | _ => True

instance (s : QueuedMAC α) (e : SimTime × Event α) : Decidable (s.Sound e) := by
  unfold Sound
  obtain ⟨_, _ | _ | _ | _ | ⟨_ | _, _⟩⟩ := e <;> infer_instance

/-- A request is outstanding, or a frame is in the module, but not both. -/
structure Counted (s : QueuedMAC α) : Prop where
  bound : s.outstanding + s.mac.txQueue.length ≤ 1
  asked : s.mac.transmitState = .idle → s.mac.txQueue = [] → s.outstanding = 1

theorem Counted.orderly (counted : s.Counted) : s.Orderly :=
  ⟨(Nat.le_add_right ..).trans counted.bound, fun _ => counted.asked⟩

theorem counted_queueIn (counted : s.Counted)
    (steps : step classifyPacket encapsulate s (time, .queueIn msg) = .ok s') : s'.Counted := by
  have same : s'.outstanding = s.outstanding ∧ s'.mac.txQueue = s.mac.txQueue ∧
      s'.mac.transmitState = s.mac.transmitState := by
    obtain ⟨requested, rfl⟩ | rfl | ⟨none, within, rfl⟩ := queueIn_cases steps
    · refine ⟨?_, rfl, rfl⟩
      simp only [outstanding, List.length_append, List.length_singleton]
      omega
    · exact ⟨rfl, rfl, rfl⟩
    · exact ⟨rfl, rfl, rfl⟩
  obtain ⟨count, queue, state⟩ := same
  refine ⟨?_, ?_⟩
  · rw [count, queue]
    exact counted.bound
  · rw [count, queue, state]
    exact counted.asked

theorem counted_mac {mac : EtherMAC} {e : EtherMAC.Event} (counted : s.Counted)
    (module : s.mac.par.queueModule = true) (inside : ∀ frame, e ≠ .upperLayerIn frame)
    (turn : EtherMAC.Turn e s.mac.transmitter mac.transmitter n) (sound : s.Sound (time, .mac e)) :
    ({ s with mac }.request n).Counted := by
  obtain ⟨bound, asked⟩ := counted
  obtain ⟨same, _⟩ := request_frame { s with mac } n
  suffices kept : s.outstanding + n + mac.txQueue.length ≤ 1 ∧
      (mac.transmitState = .idle → mac.txQueue = [] → s.outstanding + n = 1) by
    refine ⟨?_, ?_⟩
    · rw [outstanding_request, same]
      exact kept.1
    · rw [outstanding_request, same]
      exact kept.2
  have asks : (if s.mac.transmitter.queueModule = true then 1 else 0) = 1 := if_pos module
  cases turn with
  | keep length idle =>
      refine ⟨length.symm ▸ bound, fun now empty => ?_⟩
      have before : s.mac.txQueue = [] := List.length_eq_zero_iff.mp (length.symm.trans (congrArg List.length empty))
      exact asked ((idle now).resolve_right fun queued => queued before) before
  | enter arrives => exact (inside _ arrives.choose_spec).elim
  | finish _ length now =>
      refine ⟨?_, fun idle => (now idle).elim⟩
      change mac.txQueue.length + 1 = s.mac.txQueue.length at length
      omega
  | finishLast _ length empty =>
      rw [asks, show mac.txQueue = [] from empty]
      change s.mac.txQueue.length = 1 at length
      refine ⟨?_, fun _ _ => ?_⟩
      · rw [List.length_nil]
        omega
      · omega
  | resume ends before empty =>
      obtain ⟨slotNumber, rfl⟩ := ends
      have none : s.outstanding = 0 := sound before
      rw [asks, none, show mac.txQueue = [] from empty]
      exact ⟨le_rfl, fun _ _ => rfl⟩
  | abandon ends many =>
      obtain ⟨slotNumber, rfl⟩ := ends
      exact absurd sound (Nat.not_lt.mpr many)

theorem counted_step (based : s.Based classifyPacket) (counted : s.Counted)
    (admits : s.Admits e) (sound : s.Sound e) (steps : step classifyPacket encapsulate s e = .ok s') :
    s'.Counted := by
  obtain ⟨time, msg | _ | e⟩ := e
  · exact counted_queueIn counted steps
  · obtain ⟨mac, msg, rest, queue, enters, rfl⟩ := upperLayerIn_cases based.settled steps
    have length := enters.length
    have count : s.outstanding = s.queue.packetRequested + (rest.length + 1) := congrArg (_ + List.length ·) queue
    have bound := counted.bound
    refine ⟨?_, fun _ empty => ?_⟩
    · change s.queue.packetRequested + rest.length + mac.txQueue.length ≤ 1
      omega
    · rw [show mac.txQueue = [] from empty] at length
      cases length
  · obtain ⟨mac, n, _, _, _, turn, rfl⟩ := mac_cases based.settled admits steps
    refine counted_mac counted based.module (fun frame same => ?_) turn sound
    subst same
    exact admits.2.2.2

theorem outstanding_endPause {slotNumber : Nat} (based : s.Based classifyPacket)
    (admits : s.Admits (time, .mac (.selfMsg .endPause slotNumber))) (empty : s.mac.txQueue = [])
    (steps : s.stepMac (time, .selfMsg .endPause slotNumber) = .ok s') : s'.outstanding = s.outstanding + 1 := by
  obtain ⟨module, settled, _⟩ := based
  have on : s.mac.timers.On .endPause := admits.2.2.2.2.2.1
  have state : s.mac.transmitState = .pause := EtherMAC.state_of_on settled rfl on
  obtain ⟨mac, n, handles, _, _, turn, rfl⟩ := mac_cases settled admits steps
  obtain ⟨outs, requested, _⟩ := EtherMAC.requestFrame_eq
    { s.mac.deliver time (.selfMsg .endPause slotNumber) with transmitState := .idle }
  have same : mac.transmitState = .idle ∧ mac.txQueue = [] := by
    cases (EtherMAC.handle_endPause settled on empty).symm.trans handles
    rw [requested]
    exact ⟨rfl, empty⟩
  rw [outstanding_request]
  cases turn with
  | keep _ idle =>
      obtain was | queued := idle same.1
      · cases state.symm.trans was
      · exact (queued empty).elim
  | enter arrives => cases arrives.choose_spec
  | finish was => cases state.symm.trans was
  | finishLast was => cases state.symm.trans was
  | resume => exact congrArg (s.outstanding + ·) (if_pos module)
  | abandon ends => cases ends.choose_spec

theorem given_up {slotNumber : Nat} (based : s.Based classifyPacket) (counted : s.Counted)
    (admits : s.Admits (time, .mac (.selfMsg .endJamming slotNumber))) (many : maxAttempts ≤ s.mac.backoffs)
    (steps : s.stepMac (time, .selfMsg .endJamming slotNumber) = .ok s') :
    s'.mac.autoconfigInProgress = false ∧ s'.mac.transmitState = .idle ∧ s'.mac.txQueue = [] ∧
      s'.outstanding = 0 := by
  obtain ⟨module, settled, _⟩ := based
  have on : s.mac.timers.On .endJamming := admits.2.2.2.2.2.1
  have state : s.mac.transmitState = .jamming := EtherMAC.state_of_on settled rfl on
  have running : s.mac.autoconfigInProgress = false := EtherMAC.running_of_transmits settled.coherent fun idle => by
    cases state.symm.trans idle
  have queued : s.mac.txQueue ≠ [] := settled.coherent.queued (by rw [state]; exact ⟨nofun, nofun⟩)
  have positive := List.length_pos_iff.mpr queued
  have bound := counted.bound
  have tail : s.mac.txQueue.tail = [] := by
    refine List.length_eq_zero_iff.mp ?_
    rw [List.length_tail]
    omega
  obtain ⟨mac, n, handles, _, _, turn, rfl⟩ := mac_cases settled admits steps
  cases (EtherMAC.handle_endJamming settled on many).symm.trans handles
  obtain ⟨same, _⟩ := request_frame { s with mac := { s.mac.deliver time (.selfMsg .endJamming slotNumber) with
    txQueue := s.mac.txQueue.tail, transmitState := .idle, backoffs := 0 } } n
  rw [outstanding_request, same]
  refine ⟨running, rfl, tail, ?_⟩
  change s.outstanding + n = 0
  cases turn with
  | keep length =>
      change s.mac.txQueue.tail.length = s.mac.txQueue.length at length
      rw [tail, List.length_nil] at length
      omega
  | enter arrives => cases arrives.choose_spec
  | finish was => cases state.symm.trans was
  | finishLast was => cases state.symm.trans was
  | resume ends => cases ends.choose_spec
  | abandon => omega

theorem sound_of_orderly (based : s.Based classifyPacket) (counted : s.Counted)
    (admits : s.Admits e) (steps : step classifyPacket encapsulate s e = .ok s') (orderly : s'.Orderly) :
    s.Sound e := by
  obtain ⟨time, msg | _ | frame | ⟨msg, sendingTime⟩ | ⟨_ | _, slotNumber⟩⟩ := e
  case mac.selfMsg.endPause =>
    intro empty
    have single := orderly.single
    rw [outstanding_endPause based admits empty steps] at single
    omega
  case mac.selfMsg.endJamming =>
    by_contra many
    obtain ⟨running, idle, empty, none⟩ := given_up based counted admits (Nat.not_lt.mp many) steps
    have asked := orderly.asked running idle empty
    omega
  all_goals trivial

theorem requestPacket_create (numQueues : Nat) (frameCapacity : Int) :
    (DropTailQoSQueue.create numQueues frameCapacity : DropTailQoSQueue α).requestPacket.2 =
      ⟨1, frameCapacity, List.replicate numQueues []⟩ := by
  have none : PriorityQueues.pop (List.replicate numQueues ([] : List α)) = none :=
    PriorityQueues.pop_eq_none.mpr fun q member => List.eq_of_mem_replicate member
  unfold DropTailQoSQueue.requestPacket DropTailQoSQueue.dequeue DropTailQoSQueue.create
  rw [none]

theorem based_start {par : MacParameters} (module : par.queueModule = true) (numQueues : Nat) (frameCapacity : Int) :
    (start par numQueues frameCapacity : QueuedMAC α).Based classifyPacket := by
  unfold start
  rw [requestPacket_create]
  have empty : ∀ q ∈ List.replicate numQueues ([] : List α), q = [] := fun q member => List.eq_of_mem_replicate member
  refine ⟨module, EtherMAC.settled_start False par, fun _ => empty, fun c msg waits => ?_, fun c => ?_⟩
  · rw [PriorityQueues.waiting_of_empty empty] at waits
    cases waits
  · exact (PriorityQueues.waiting_of_empty empty c).symm

theorem counted_start (par : MacParameters) (numQueues : Nat) (frameCapacity : Int) :
    (start par numQueues frameCapacity : QueuedMAC α).Counted := by
  unfold start
  rw [requestPacket_create]
  exact ⟨le_rfl, fun _ _ => rfl⟩

end QueuedMAC

/-- In every run, the packets leave the queue in order, each one once, and none while one of a higher priority
waits. In a run of sound steps, the requests are orderly, and the sound steps are those that leave them orderly. -/
theorem packet_requests {α : Type} (classifyPacket : α → Nat) (encapsulate : α → EtherFrame) {par : MacParameters}
    (module : par.queueModule = true) (numQueues : Nat) (frameCapacity : Int) :
    (∀ es s, Runs (QueuedMAC.step classifyPacket encapsulate) (fun s e => s.Admits e)
      (.start par numQueues frameCapacity) es s → s.Filed classifyPacket ∧ ∀ e s', s.Admits e →
        s.step classifyPacket encapsulate e = .ok s' → QueuedMAC.Prefers classifyPacket s s') ∧
    ∀ es s, Runs (QueuedMAC.step classifyPacket encapsulate) (fun s e => s.Admits e ∧ s.Sound e)
      (.start par numQueues frameCapacity) es s → s.Orderly ∧ ∀ e s', s.Admits e →
        s.step classifyPacket encapsulate e = .ok s' → (s'.Orderly ↔ s.Sound e) := by
  have based : (QueuedMAC.start par numQueues frameCapacity).Based classifyPacket :=
    QueuedMAC.based_start module numQueues frameCapacity
  refine ⟨fun es s runs => ?_, fun es s runs => ?_⟩
  · have kept : s.Based classifyPacket := runs.invariant _ (fun s e s' based admits steps =>
      (QueuedMAC.based_step based admits steps).1) based
    exact ⟨kept.filed, fun e s' admits steps => (QueuedMAC.based_step kept admits steps).2⟩
  · obtain ⟨kept, counted⟩ : s.Based classifyPacket ∧ s.Counted := runs.invariant
      (fun s => s.Based classifyPacket ∧ s.Counted) (fun s e s' both meets steps =>
        ⟨(QueuedMAC.based_step both.1 meets.1 steps).1, QueuedMAC.counted_step both.1 both.2 meets.1 meets.2 steps⟩)
      ⟨based, QueuedMAC.counted_start par numQueues frameCapacity⟩
    exact ⟨counted.orderly, fun e s' admits steps => ⟨QueuedMAC.sound_of_orderly kept counted admits steps,
      fun sound => (QueuedMAC.counted_step kept counted admits sound steps).orderly⟩⟩

def exampleQueuedMac (duplexEnabled : Bool) : MacParameters := ⟨1, false, 1, true, 100000000, duplexEnabled⟩

/-- Short frames have priority. -/
def exampleClass (frame : EtherFrame) : Nat := if frame.length ≤ 512 then 0 else 1

def exampleLong : EtherFrame := { exampleData with length := 8000 }

/-- Two packets wait while the first one is sent, and the one of the higher priority leaves first. -/
theorem packet_requests_priority : ∃ es s, Runs (QueuedMAC.step exampleClass id) (fun s e => s.Admits e ∧ s.Sound e)
      (.start (exampleQueuedMac true) 2 0) es s ∧ s.arrived = [exampleLong] ∧ s.underway = [exampleData] ∧
    s.queue.queues.waiting 1 = [exampleLong] ∧ s.Orderly ∧ s.Filed exampleClass := by
  have checked : (run (fun s e => Exec.assert (s.Admits e ∧ s.Sound e) >>= fun _ => s.step exampleClass id e)
      (QueuedMAC.start (exampleQueuedMac true) 2 0)
      [(autoconfigPeriod, .mac (.selfMsg .endAutoconfig 0)), (bitAt 0, .queueIn exampleLong), (bitAt 0, .upperLayerIn),
        (bitAt 1, .queueIn exampleLong), (bitAt 2, .queueIn exampleData), (bitAt 96, .mac (.selfMsg .endIFG 0)),
        (bitAt 8160, .mac (.selfMsg .endTransmission 0))]).map (fun s => decide (s.arrived = [exampleLong] ∧
          s.underway = [exampleData] ∧ s.queue.queues.waiting 1 = [exampleLong])) = .ok true := by
    decide +kernel
  obtain ⟨s, runs, same⟩ := map_eq_ok checked
  obtain ⟨arrived, underway, waiting⟩ := of_decide_eq_true same
  have sound := Runs.of_checked runs
  obtain ⟨always, orderly⟩ := @packet_requests _ exampleClass id (exampleQueuedMac true) rfl 2 0
  exact ⟨_, s, sound, arrived, underway, waiting, (orderly _ s sound).1,
    (always _ s (sound.mono fun _ _ both => both.1)).1⟩

/-- A pause in the idle state requests a second frame, and after a frame that is given up none is requested, though
one waits. -/
theorem packet_requests_fails :
    (∃ es s, Runs (QueuedMAC.step exampleClass id) (fun s e => s.Admits e)
      (.start (exampleQueuedMac true) 2 0) es s ∧ s.queue.packetRequested = 2) ∧
    ∃ es s, Runs (QueuedMAC.step exampleClass id) (fun s e => s.Admits e)
      (.start (exampleQueuedMac false) 2 0) es s ∧ s.mac.transmitState = .idle ∧ s.mac.receiveState = .idle ∧
        s.mac.txQueue = [] ∧ s.underway = [] ∧ s.queue.packetRequested = 0 ∧
          s.queue.queues.waiting 0 = [exampleData] := by
  have paused : (run (fun s e => Exec.assert (s.Admits e) >>= fun _ => s.step exampleClass id e)
      (QueuedMAC.start (exampleQueuedMac true) 2 0)
      [(autoconfigPeriod, .mac (.selfMsg .endAutoconfig 0)),
        (bitAt 0, .mac (.physIn (.etherFrame (examplePause 10)) (bitAt 0))),
        (bitAt 576, .mac (.selfMsg .endReception 0)), (bitAt 5696, .mac (.selfMsg .endPause 0))]).map
          (fun s => decide (s.queue.packetRequested = 2)) = .ok true := by
    decide +kernel
  have givenUp : (run (fun s e => Exec.assert (s.Admits e) >>= fun _ => s.step exampleClass id e)
      (QueuedMAC.start (exampleQueuedMac false) 2 0)
      ([(0, .queueIn exampleData), (0, .upperLayerIn), (0, .queueIn exampleData)] ++
        (giveUpRun.drop 2).map (fun e => (e.1, .mac e.2)))).map
          (fun s => decide (s.mac.transmitState = .idle ∧ s.mac.receiveState = .idle ∧ s.mac.txQueue = [] ∧
            s.underway = [] ∧ s.queue.packetRequested = 0 ∧ s.queue.queues.waiting 0 = [exampleData])) = .ok true := by
    decide +kernel
  obtain ⟨s, runs, same⟩ := map_eq_ok paused
  obtain ⟨s', runs', same'⟩ := map_eq_ok givenUp
  exact ⟨⟨_, s, Runs.of_checked runs, of_decide_eq_true same⟩, _, s', Runs.of_checked runs', of_decide_eq_true same'⟩

end IPv6Suite
