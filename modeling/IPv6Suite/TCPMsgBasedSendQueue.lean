import IPv6Suite.Lib.Machine
import IPv6Suite.MessageStream

namespace IPv6Suite

open Lib SerialNumber

/-- The bytes from `beginSeq` up to `endSeq` and the messages whose ends are not discarded. -/
structure TCPMsgBasedSendQueue where
  beginSeq : BitVec 32
  endSeq : BitVec 32
  payloadQueue : List TCPPayloadMessage
deriving DecidableEq

namespace TCPMsgBasedSendQueue

def init (q : TCPMsgBasedSendQueue) (startSeq : BitVec 32) : TCPMsgBasedSendQueue :=
  { q with beginSeq := startSeq, endSeq := startSeq }

def enqueueAppData (q : TCPMsgBasedSendQueue) (msg : CMessage) : TCPMsgBasedSendQueue :=
  let endSeq := q.endSeq + BitVec.ofNat 32 (msg.length >>> 3)
  { q with endSeq, payloadQueue := q.payloadQueue ++ [⟨endSeq, msg⟩] }

def bufferEndSeq (q : TCPMsgBasedSendQueue) : BitVec 32 := q.endSeq

def createSegmentWithBytes (q : TCPMsgBasedSendQueue) (fromSeq : BitVec 32) (numBytes : Nat) :
    Exec TCPSegment := do
  let toSeq := fromSeq + BitVec.ofNat 32 numBytes
  Exec.assert (seqLE q.beginSeq fromSeq ∧ seqLE toSeq q.endSeq)
  let rest := q.payloadQueue.dropWhile fun i => seqLess i.endSequenceNo fromSeq
  let tcpseg := { TCPSegment.create with sequenceNo := fromSeq, payloadLength := numBytes }
  return (rest.takeWhile fun i => seqLE i.endSequenceNo toSeq).foldl
    TCPSegment.addPayloadMessage tcpseg

def discardUpTo (q : TCPMsgBasedSendQueue) (seqNum : BitVec 32) : Exec TCPMsgBasedSendQueue := do
  Exec.assert (seqLE q.beginSeq seqNum ∧ seqLE seqNum q.endSeq)
  return { q with
    beginSeq := seqNum
    payloadQueue := q.payloadQueue.dropWhile fun i => seqLE i.endSequenceNo seqNum }

end TCPMsgBasedSendQueue

theorem TCPSegment.foldl_addPayloadMessage (tcpseg : TCPSegment) (l : List TCPPayloadMessage) :
    l.foldl TCPSegment.addPayloadMessage tcpseg = { tcpseg with payload := tcpseg.payload ++ l } := by
  induction l generalizing tcpseg with
  | nil => rw [List.append_nil]; rfl
  | cons p rest ih =>
      rw [List.foldl_cons, ih]
      simp [TCPSegment.addPayloadMessage]

inductive SendQueueCall where
  | enqueueAppData (msg : CMessage)
  | discardUpTo (place : Nat)

/-- A queue with all messages it has been given and the place of the acknowledgement point,
counted from `start`. -/
structure SentStream where
  start : BitVec 32
  queue : TCPMsgBasedSendQueue
  messages : List CMessage
  discarded : Nat

namespace SentStream

def create (start : BitVec 32) : SentStream where
  start
  queue := ⟨start, start, []⟩
  messages := []
  discarded := 0

def step (h : SentStream) : SendQueueCall → Exec SentStream
  | .enqueueAppData msg =>
      .ok { h with queue := h.queue.enqueueAppData msg, messages := h.messages ++ [msg] }
  | .discardUpTo point => do
      let queue ← h.queue.discardUpTo (place h.start point)
      return { h with queue, discarded := point }

/-- Messages are not empty, and acknowledgement points lie in the queue. -/
def Allowed (h : SentStream) : SendQueueCall → Prop
  | .enqueueAppData msg => 0 < msg.bytes
  | .discardUpTo point => h.discarded ≤ point ∧ point ≤ totalBytes h.messages

/-- The queue does not grow to 2^31 bytes. -/
def Bounded (h : SentStream) : SendQueueCall → Prop
  | .enqueueAppData msg => totalBytes (h.messages ++ [msg]) < h.discarded + 2 ^ 31
  | .discardUpTo _ => True

/-- What the documentation of the payload says of a segment from `lo` up to `hi`. -/
def CarriesOwn (h : SentStream) (lo hi : Nat) : Prop :=
  ∃ tcpseg, h.queue.createSegmentWithBytes (place h.start lo) (hi - lo) = .ok tcpseg ∧
    tcpseg.payload = (carried h.messages lo hi).map (toPayload h.start)

/-- A message that is still queued ends where the segment begins. -/
def EndsAt (h : SentStream) (lo : Nat) : Prop :=
  ∃ p ∈ h.queue.payloadQueue, p.endSequenceNo = place h.start lo

/-- The payload of the segments from `lo` to the first cut, from there to the next and so on. -/
def cutInto (h : SentStream) : (lo : Nat) → (cuts : List Nat) → Exec (List TCPPayloadMessage)
  | _, [] => .ok []
  | lo, cut :: rest => do
      let tcpseg ← h.queue.createSegmentWithBytes (place h.start lo) (cut - lo)
      let others ← h.cutInto cut rest
      return tcpseg.payload ++ others

/-- The queue holds the messages that end after the acknowledgement point. -/
structure Holds (h : SentStream) : Prop where
  nonempty : ∀ msg ∈ h.messages, 0 < msg.bytes
  beginSeq : h.queue.beginSeq = place h.start h.discarded
  endSeq : h.queue.endSeq = place h.start (totalBytes h.messages)
  queued : h.queue.payloadQueue =
    (carried h.messages h.discarded (totalBytes h.messages)).map (toPayload h.start)
  inside : h.discarded ≤ totalBytes h.messages
  bounded : totalBytes h.messages < h.discarded + 2 ^ 31

variable {h h' : SentStream} {lo hi : Nat}

theorem holds_create (start : BitVec 32) : (create start).Holds where
  nonempty := fun _ inside => absurd inside List.not_mem_nil
  beginSeq := (place_zero start).symm
  endSeq := (place_zero start).symm
  queued := rfl
  inside := Nat.le_refl 0
  bounded := Nat.lt_of_lt_of_eq (Nat.two_pow_pos 31) (Nat.zero_add _).symm

theorem holds_enqueueAppData (holds : h.Holds) {msg : CMessage} (nonempty : 0 < msg.bytes)
    (bounded : totalBytes (h.messages ++ [msg]) < h.discarded + 2 ^ 31) :
    Holds { h with queue := h.queue.enqueueAppData msg, messages := h.messages ++ [msg] } := by
  have grown : totalBytes (h.messages ++ [msg]) = totalBytes h.messages + msg.bytes := by
    rw [totalBytes_append]
    rfl
  have inside := holds.inside
  have endSeq : (h.queue.enqueueAppData msg).endSeq =
      place h.start (totalBytes (h.messages ++ [msg])) := by
    unfold TCPMsgBasedSendQueue.enqueueAppData
    rw [holds.endSeq, place_add, grown]
    rfl
  have all : ∀ other ∈ h.messages ++ [msg], 0 < other.bytes := by
    intro other member
    rcases List.mem_append.mp member with old | new
    · exact holds.nonempty other old
    · rw [List.mem_singleton.mp new]
      exact nonempty
  refine ⟨all, holds.beginSeq, endSeq, ?_, by dsimp only; omega, bounded⟩
  have last : carried (h.messages ++ [msg]) (totalBytes h.messages)
      (totalBytes (h.messages ++ [msg])) = [(totalBytes (h.messages ++ [msg]), msg)] := by
    unfold carried
    rw [endings_append, List.filter_append, Nat.zero_add]
    rw [List.filter_eq_nil_iff.mpr, List.filter_cons_of_pos, List.filter_nil, List.nil_append]
    · simp only [decide_eq_true_eq]
      omega
    · intro p old
      have bounds := endings_bounds holds.nonempty p old
      simp only [decide_eq_true_eq]
      omega
  have before : carried (h.messages ++ [msg]) h.discarded (totalBytes h.messages) =
      carried h.messages h.discarded (totalBytes h.messages) := by
    unfold carried
    rw [endings_append, List.filter_append, Nat.zero_add, List.filter_cons_of_neg, List.filter_nil,
      List.append_nil]
    simp only [decide_eq_true_eq]
    omega
  have whole := carried_append all inside (Nat.le_trans (Nat.le_add_right _ _) (Nat.le_of_eq grown.symm))
  dsimp only
  rw [← whole, List.map_append, before, last, ← holds.queued]
  unfold TCPMsgBasedSendQueue.enqueueAppData at endSeq ⊢
  dsimp only at endSeq ⊢
  rw [endSeq]
  rfl

theorem holds_discardUpTo (holds : h.Holds) {point : Nat}
    (allowed : h.discarded ≤ point ∧ point ≤ totalBytes h.messages) :
    ∃ queue, h.queue.discardUpTo (place h.start point) = .ok queue ∧
      Holds { h with queue, discarded := point } := by
  have bounded := holds.bounded
  obtain ⟨low, high⟩ := allowed
  have starts : seqLE h.queue.beginSeq (place h.start point) := by
    rw [holds.beginSeq]
    exact (seqLE_place h.start (by omega) (by omega)).mpr low
  have stops : seqLE (place h.start point) h.queue.endSeq := by
    rw [holds.endSeq]
    exact (seqLE_place h.start (by omega) (by omega)).mpr high
  have kept : h.queue.payloadQueue.dropWhile (fun i => seqLE i.endSequenceNo (place h.start point)) =
      (carried h.messages point (totalBytes h.messages)).map (toPayload h.start) := by
    rw [holds.queued, ← carried_filter_above low]
    refine dropWhile_payload h.start (fun e => seqLE e (place h.start point)) (fun e => e ≤ point)
      (carried_ordered holds.nonempty) (fun p inside => ?_) fun e f less reached => ?_
    · have bounds := carried_bounds p inside
      exact decide_eq_decide.mpr (seqLE_place h.start (by omega) (by omega))
    · simp only [decide_eq_true_eq] at reached ⊢
      omega
  unfold TCPMsgBasedSendQueue.discardUpTo
  rw [assert_pos ⟨starts, stops⟩]
  refine ⟨_, rfl, holds.nonempty, rfl, holds.endSeq, kept, high, by dsimp only; omega⟩

/-- A message that ends at the first byte of the segment is in it too. -/
theorem createSegmentWithBytes_eq (holds : h.Holds) (low : h.discarded ≤ lo) (ordered : lo ≤ hi)
    (high : hi ≤ totalBytes h.messages) :
    ∃ tcpseg, h.queue.createSegmentWithBytes (place h.start lo) (hi - lo) = .ok tcpseg ∧
      tcpseg.payload = (((carried h.messages h.discarded (totalBytes h.messages)).filter
        fun p => !decide (p.1 < lo)).filter fun p => p.1 ≤ hi).map (toPayload h.start) := by
  have bounded := holds.bounded
  have toSeq : place h.start lo + BitVec.ofNat 32 (hi - lo) = place h.start hi := by
    rw [place_add, Nat.add_sub_cancel' ordered]
  have starts : seqLE h.queue.beginSeq (place h.start lo) := by
    rw [holds.beginSeq]
    exact (seqLE_place h.start (by omega) (by omega)).mpr low
  have stops : seqLE (place h.start hi) h.queue.endSeq := by
    rw [holds.endSeq]
    exact (seqLE_place h.start (by omega) (by omega)).mpr high
  have ordered : (carried h.messages h.discarded (totalBytes h.messages)).Pairwise
      fun p q => p.1 < q.1 := carried_ordered holds.nonempty
  have dropped := dropWhile_payload h.start (fun e => seqLess e (place h.start lo)) (fun e => e < lo)
    ordered
    (fun p inside => ?_) fun e f less reached => ?_
  · have taken := takeWhile_payload h.start (fun e => seqLE e (place h.start hi)) (fun e => e ≤ hi)
      (ordered.filter fun p => !decide (p.1 < lo)) (fun p inside => ?_) fun e f less reached => ?_
    · unfold TCPMsgBasedSendQueue.createSegmentWithBytes
      dsimp only
      rw [toSeq, assert_pos ⟨starts, stops⟩, holds.queued, dropped, taken]
      refine ⟨_, rfl, ?_⟩
      rw [TCPSegment.foldl_addPayloadMessage]
      exact List.nil_append _
    · have bounds := carried_bounds p (List.mem_filter.mp inside).1
      exact decide_eq_decide.mpr (seqLE_place h.start (by omega) (by omega))
    · simp only [decide_eq_true_eq] at reached ⊢
      omega
  · have bounds := carried_bounds p inside
    exact decide_eq_decide.mpr (seqLess_place h.start (by omega) (by omega))
  · simp only [decide_eq_true_eq] at reached ⊢
    omega

theorem endsAt_iff (holds : h.Holds) (low : h.discarded ≤ lo) (high : lo ≤ totalBytes h.messages) :
    h.EndsAt lo ↔ ∃ p ∈ carried h.messages h.discarded (totalBytes h.messages), p.1 = lo := by
  have bounded := holds.bounded
  unfold EndsAt
  rw [holds.queued]
  constructor
  · rintro ⟨i, inside, same⟩
    obtain ⟨p, queued, rfl⟩ := List.mem_map.mp inside
    have bounds := carried_bounds p queued
    exact ⟨p, queued, (place_eq_iff h.start (by omega) (by omega)).mp same⟩
  · rintro ⟨p, queued, same⟩
    exact ⟨_, List.mem_map_of_mem queued, congrArg (place h.start) same⟩

/-- A segment carries what it should exactly if no queued message ends where it begins. -/
theorem carriesOwn_iff (holds : h.Holds) (low : h.discarded ≤ lo) (ordered : lo ≤ hi)
    (high : hi ≤ totalBytes h.messages) : h.CarriesOwn lo hi ↔ ¬ h.EndsAt lo := by
  have bounded := holds.bounded
  obtain ⟨tcpseg, created, payload⟩ := createSegmentWithBytes_eq holds low ordered high
  rw [endsAt_iff holds low (Nat.le_trans ordered high)]
  constructor
  · rintro ⟨tcpseg', created', payload'⟩ ⟨p, queued, same⟩
    rw [created] at created'
    cases created'
    have inside : toPayload h.start p ∈ tcpseg.payload := by
      rw [payload]
      refine List.mem_map_of_mem (List.mem_filter.mpr ⟨List.mem_filter.mpr ⟨queued, ?_⟩, ?_⟩)
      · simp [same]
      · simp [same, ordered]
    rw [payload'] at inside
    obtain ⟨q, carried, equal⟩ := List.mem_map.mp inside
    have bounds := carried_bounds q carried
    have places := congrArg TCPPayloadMessage.endSequenceNo equal
    have equal' := (place_eq_iff h.start (by omega) (by omega)).mp places
    omega
  · intro unended
    refine ⟨tcpseg, created, payload.trans (congrArg _ ?_)⟩
    have strict : (carried h.messages h.discarded (totalBytes h.messages)).filter
        (fun p => !decide (p.1 < lo)) =
          (carried h.messages h.discarded (totalBytes h.messages)).filter
            fun p => !decide (p.1 ≤ lo) := by
      refine List.filter_congr fun p inside => ?_
      have apart : p.1 ≠ lo := fun same => unended ⟨p, inside, same⟩
      rw [Bool.not_inj_iff, decide_eq_decide]
      omega
    rw [strict, carried_filter_above low, carried_filter_below high]

theorem cutInto_eq (holds : h.Holds) {cuts : List Nat} (low : h.discarded ≤ lo)
    (within : lo ≤ totalBytes h.messages)
    (ordered : (lo :: cuts).Pairwise (· ≤ ·)) (high : ∀ cut ∈ cuts, cut ≤ totalBytes h.messages)
    (unended : ∀ cut ∈ (lo :: cuts).dropLast, ¬ h.EndsAt cut) : h.cutInto lo cuts =
      .ok ((carried h.messages lo ((lo :: cuts).getLast (List.cons_ne_nil _ _))).map (toPayload h.start)) := by
  induction cuts generalizing lo with
  | nil =>
      have none : carried h.messages lo lo = [] := by
        refine List.filter_eq_nil_iff.mpr fun p _ => ?_
        simp only [decide_eq_true_eq]
        omega
      rw [List.getLast_singleton, none]
      rfl
  | cons cut rest ih =>
      obtain ⟨first, others⟩ := List.pairwise_cons.mp ordered
      have next := first cut List.mem_cons_self
      have inside := high cut List.mem_cons_self
      have own := (carriesOwn_iff holds low next inside).mpr
        (unended lo (by rw [List.dropLast_cons_cons]; exact List.mem_cons_self))
      obtain ⟨tcpseg, created, payload⟩ := own
      have tail := ih (Nat.le_trans low next) inside others
        (fun later member => high later (List.mem_cons_of_mem cut member)) fun later member =>
          unended later (by rw [List.dropLast_cons_cons]; exact List.mem_cons_of_mem lo member)
      have last : cut ≤ (cut :: rest).getLast (List.cons_ne_nil _ _) := by
        rcases List.mem_cons.mp (List.getLast_mem (List.cons_ne_nil cut rest)) with same | later
        · exact Nat.le_of_eq same.symm
        · exact (List.pairwise_cons.mp others).1 _ later
      unfold cutInto
      rw [created, ok_bind, tail, ok_bind, List.getLast_cons_cons,
        ← carried_append holds.nonempty next last, List.map_append, payload]
      rfl

theorem holds_step {call : SendQueueCall} (holds : h.Holds) (allowed : h.Allowed call)
    (bounded : h.Bounded call) : ∃ h', h.step call = .ok h' ∧ h'.Holds := by
  cases call with
  | enqueueAppData msg => exact ⟨_, rfl, holds_enqueueAppData holds allowed bounded⟩
  | discardUpTo point =>
      obtain ⟨queue, discarded, kept⟩ := holds_discardUpTo holds allowed
      refine ⟨{ h with queue, discarded := point }, ?_, kept⟩
      change (h.queue.discardUpTo (place h.start point) >>= fun queue => _) = _
      rw [discarded]
      rfl

theorem createSegmentWithBytes_oversize (beginSeq : h.queue.beginSeq = place h.start h.discarded) :
    h.queue.createSegmentWithBytes (place h.start (h.discarded + 2 ^ 31)) 0 = .error .assertFailed := by
  unfold TCPMsgBasedSendQueue.createSegmentWithBytes
  dsimp only
  rw [assert_neg]
  · rfl
  · rintro ⟨starts, -⟩
    unfold seqLE at starts
    rw [beginSeq, toNat_sub_place h.start (Nat.le_add_right _ _) (by omega)] at starts
    omega

/-- In every run in which the queue stays below 2^31 bytes, and for every range in the queue:
a segment carries exactly the messages that end in it if and only if no queued message ends
where it begins, and segments that follow each other then carry every message once. -/
theorem carriesOwn_of_bounded {start : BitVec 32} {calls : List SendQueueCall}
    (runs : Runs step (fun h call => h.Allowed call ∧ h.Bounded call) (create start) calls h) :
    (∀ lo hi, h.discarded ≤ lo → lo ≤ hi → hi ≤ totalBytes h.messages →
      (h.CarriesOwn lo hi ↔ ¬ h.EndsAt lo)) ∧
    (∀ lo cuts, h.discarded ≤ lo → lo ≤ totalBytes h.messages → (lo :: cuts).Pairwise (· ≤ ·) →
      (∀ cut ∈ cuts, cut ≤ totalBytes h.messages) →
      (∀ cut ∈ (lo :: cuts).dropLast, ¬ h.EndsAt cut) →
        h.cutInto lo cuts =
          .ok ((carried h.messages lo ((lo :: cuts).getLast (List.cons_ne_nil _ _))).map
            (toPayload h.start))) ∧
    ∀ msg h', h.step (.enqueueAppData msg) = .ok h' → ¬ h.Bounded (.enqueueAppData msg) →
      ∃ lo, h'.discarded ≤ lo ∧ lo ≤ totalBytes h'.messages ∧ ¬ h'.CarriesOwn lo lo := by
  have holds : h.Holds := by
    refine runs.invariant Holds (fun s call s' holds meets done => ?_) (holds_create start)
    obtain ⟨t, steps, kept⟩ := holds_step holds meets.1 meets.2
    rw [done] at steps
    cases steps
    exact kept
  refine ⟨fun lo hi => carriesOwn_iff holds, fun lo cuts => cutInto_eq holds, ?_⟩
  intro msg h' done oversize
  cases done
  refine ⟨h.discarded + 2 ^ 31, Nat.le_add_right _ _, Nat.le_of_not_lt oversize, ?_⟩
  rintro ⟨tcpseg, created, -⟩
  rw [Nat.sub_self] at created
  have refused := createSegmentWithBytes_oversize (h := { h with
    queue := h.queue.enqueueAppData msg, messages := h.messages ++ [msg] }) holds.beginSeq
  rw [refused] at created
  cases created

/-- Messages of 100 and 400 bytes from sequence number 1000 on. -/
def exampleCalls : List SendQueueCall :=
  [.enqueueAppData ⟨"msg1", 800⟩, .enqueueAppData ⟨"msg2", 3200⟩]

theorem carriesOwn_example : ∃ h,
    Runs step (fun h call => h.Allowed call ∧ h.Bounded call) (create 1000) exampleCalls h ∧
      h.CarriesOwn 50 500 := by
  have runs : Runs step (fun h call => h.Allowed call ∧ h.Bounded call) (create 1000)
      exampleCalls _ :=
    .cons ⟨Nat.le_of_ble_eq_true rfl, Nat.le_of_ble_eq_true rfl⟩ rfl
      (.cons ⟨Nat.le_of_ble_eq_true rfl, Nat.le_of_ble_eq_true rfl⟩ rfl (.nil _))
  refine ⟨_, runs, ((carriesOwn_of_bounded runs).1 50 500 (by decide) (by decide) (by decide)).mpr ?_⟩
  rintro ⟨p, inside, same⟩
  revert same
  revert p
  decide

/-- The message that ends where the second segment begins is in this one too. -/
theorem boundary_message_carried_twice :
    ¬ ∀ start calls h, Runs step Allowed (create start) calls h →
      ∀ lo hi, h.discarded ≤ lo → lo ≤ hi → hi ≤ totalBytes h.messages → h.CarriesOwn lo hi := by
  intro claim
  have runs : Runs step Allowed (create 1000) exampleCalls _ :=
    .cons (Nat.le_of_ble_eq_true rfl) rfl (.cons (Nat.le_of_ble_eq_true rfl) rfl (.nil _))
  obtain ⟨tcpseg, created, payload⟩ := claim _ _ _ runs 100 500 (by decide) (by decide) (by decide)
  cases created
  exact absurd payload (by decide)

end SentStream

end IPv6Suite
