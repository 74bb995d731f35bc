import IPv6Suite.TCPMsgBasedSendQueue
import IPv6Suite.TCPVirtualDataQueues

namespace IPv6Suite

open Lib

inductive TCPSendQueueCall where
  | init (startSeq : BitVec 32)
  | enqueueAppData (msg : CMessage)
  | createSegmentWithBytes (fromSeq : BitVec 32) (numBytes : Nat)
  | discardUpTo (seqNum : BitVec 32)

/-- What a call returns, and the messages that it deletes. -/
structure TCPSendQueueReply where
  tcpseg : Option TCPSegment
  deleted : List CMessage
deriving DecidableEq

namespace TCPVirtualDataSendQueue

def call (q : TCPVirtualDataSendQueue) :
    TCPSendQueueCall → Exec (TCPSendQueueReply × TCPVirtualDataSendQueue)
  | .init startSeq => .ok (⟨none, []⟩, q.init startSeq)
  | .enqueueAppData msg => .ok (⟨none, [msg]⟩, q.enqueueAppData msg)
  | .createSegmentWithBytes fromSeq numBytes => do
      let tcpseg ← q.createSegmentWithBytes fromSeq numBytes
      return (⟨some tcpseg, []⟩, q)
  | .discardUpTo seqNum => do
      let q ← q.discardUpTo seqNum
      return (⟨none, []⟩, q)

def step (q : TCPVirtualDataSendQueue) (c : TCPSendQueueCall) : Exec TCPVirtualDataSendQueue :=
  (·.2) <$> q.call c

end TCPVirtualDataSendQueue

namespace TCPMsgBasedSendQueue

def create : TCPMsgBasedSendQueue := ⟨0, 0, []⟩

def call (q : TCPMsgBasedSendQueue) :
    TCPSendQueueCall → Exec (TCPSendQueueReply × TCPMsgBasedSendQueue)
  | .init startSeq => .ok (⟨none, []⟩, q.init startSeq)
  | .enqueueAppData msg => .ok (⟨none, []⟩, q.enqueueAppData msg)
  | .createSegmentWithBytes fromSeq numBytes => do
      let tcpseg ← q.createSegmentWithBytes fromSeq numBytes
      return (⟨some tcpseg, []⟩, q)
  | .discardUpTo seqNum => do
      let q' ← q.discardUpTo seqNum
      let deleted := q.payloadQueue.takeWhile fun i => seqLE i.endSequenceNo seqNum
      return (⟨none, deleted.map (·.msg)⟩, q')

def step (q : TCPMsgBasedSendQueue) (c : TCPSendQueueCall) : Exec TCPMsgBasedSendQueue :=
  (·.2) <$> q.call c

variable {q : TCPMsgBasedSendQueue} {p : TCPPayloadMessage} {rest : List TCPPayloadMessage}

def bytes (q : TCPMsgBasedSendQueue) : TCPVirtualDataSendQueue := ⟨q.beginSeq, q.endSeq⟩

theorem bytes_step (q : TCPMsgBasedSendQueue) (c : TCPSendQueueCall) : q.bytes.step c = bytes <$> q.step c := by
  unfold TCPVirtualDataSendQueue.step step
  cases c with
  | init | enqueueAppData => rfl
  | createSegmentWithBytes fromSeq numBytes =>
      unfold TCPVirtualDataSendQueue.call call
      unfold TCPVirtualDataSendQueue.createSegmentWithBytes createSegmentWithBytes bytes
      dsimp only
      unfold Exec.assert
      split <;> rfl
  | discardUpTo seqNum =>
      unfold TCPVirtualDataSendQueue.call call
      unfold TCPVirtualDataSendQueue.discardUpTo discardUpTo bytes
      dsimp only
      unfold Exec.assert
      split <;> rfl

theorem bytes_run (q : TCPMsgBasedSendQueue) (calls : List TCPSendQueueCall) :
    run TCPVirtualDataSendQueue.step q.bytes calls = bytes <$> run step q calls := by
  induction calls generalizing q with
  | nil => rfl
  | cons c rest ih =>
      rw [run_cons, run_cons, bytes_step]
      cases q.step c with
      | error fault => rfl
      | ok q' => exact ih q'

/-- Two queues that no sequence of calls tells apart. -/
def Alike (q q' : TCPMsgBasedSendQueue) : Prop :=
  ∀ later, responses call q later = responses call q' later

theorem segment_eq (fromSeq : BitVec 32) (numBytes : Nat)
    (accepted : seqLE q.beginSeq fromSeq ∧ seqLE (fromSeq + BitVec.ofNat 32 numBytes) q.endSeq) :
    q.call (.createSegmentWithBytes fromSeq numBytes) =
      .ok (⟨some { TCPSegment.create with
        sequenceNo := fromSeq
        payloadLength := numBytes
        payload := (q.payloadQueue.dropWhile fun i => seqLess i.endSequenceNo fromSeq).takeWhile
          fun i => seqLE i.endSequenceNo (fromSeq + BitVec.ofNat 32 numBytes) }, []⟩, q) := by
  unfold call createSegmentWithBytes
  dsimp only
  rw [assert_pos accepted, TCPSegment.foldl_addPayloadMessage]
  rfl

theorem discard_eq (seqNum : BitVec 32) (accepted : seqLE q.beginSeq seqNum ∧ seqLE seqNum q.endSeq) :
    q.call (.discardUpTo seqNum) =
      .ok (⟨none, (q.payloadQueue.takeWhile fun i => seqLE i.endSequenceNo seqNum).map (·.msg)⟩,
        { q with
          beginSeq := seqNum
          payloadQueue := q.payloadQueue.dropWhile fun i => seqLE i.endSequenceNo seqNum }) := by
  unfold call discardUpTo
  dsimp only
  rw [assert_pos accepted]
  rfl

theorem seqLE_refl (seq : BitVec 32) : seqLE seq seq := by
  unfold seqLE
  rw [BitVec.sub_self]
  decide

theorem enqueue_eq (startSeq : BitVec 32) (msg : CMessage) :
    (q.init startSeq).call (.enqueueAppData msg) =
      .ok (⟨none, []⟩, ⟨startSeq, startSeq + BitVec.ofNat 32 msg.bytes,
        q.payloadQueue ++ [⟨startSeq + BitVec.ofNat 32 msg.bytes, msg⟩]⟩) := rfl

theorem sent_after_init (queued : q.payloadQueue = p :: rest) {startSeq : BitVec 32}
    (ahead : (p.endSequenceNo - startSeq).toNat < 2 ^ 31) : ¬ (q.init startSeq).Alike (create.init startSeq) := by
  intro alike
  obtain ⟨name, other⟩ : ∃ name, p.msg.name ≠ name := by
    by_cases same : p.msg.name = "data"
    · exact ⟨"", by rw [same]; decide⟩
    · exact ⟨"data", same⟩
  let numBytes := (p.endSequenceNo - startSeq).toNat
  let msg : CMessage := ⟨name, 8 * numBytes⟩
  let last : TCPPayloadMessage := ⟨p.endSequenceNo, msg⟩
  have ends : startSeq + BitVec.ofNat 32 numBytes = p.endSequenceNo := by
    change startSeq + BitVec.ofNat 32 (p.endSequenceNo - startSeq).toNat = p.endSequenceNo
    bv_omega
  have bytes : msg.bytes = numBytes := by
    change (8 * numBytes) >>> 3 = numBytes
    rw [Nat.shiftRight_eq_div_pow]
    omega
  have reply (q : TCPMsgBasedSendQueue) : responses call (q.init startSeq)
      [.enqueueAppData msg, .createSegmentWithBytes startSeq numBytes] =
        [.ok ⟨none, []⟩, .ok ⟨some { TCPSegment.create with
          sequenceNo := startSeq
          payloadLength := numBytes
          payload := ((q.payloadQueue ++ [last]).dropWhile
            fun i => seqLess i.endSequenceNo startSeq).takeWhile
              fun i => seqLE i.endSequenceNo p.endSequenceNo }, []⟩] := by
    have first : (q.init startSeq).call (.enqueueAppData msg) =
        .ok (⟨none, []⟩, ⟨startSeq, p.endSequenceNo, q.payloadQueue ++ [last]⟩) := by
      rw [enqueue_eq, bytes, ends]
    rw [responses_cons first, responses_cons (segment_eq _ _ ⟨seqLE_refl _, ?_⟩), ends]
    · rfl
    · rw [ends]
      exact seqLE_refl _
  have replies := (reply q).symm.trans ((alike _).trans (reply create))
  simp only [List.cons.injEq, Except.ok.injEq, TCPSendQueueReply.mk.injEq, Option.some.injEq,
    TCPSegment.mk.injEq, true_and, and_true] at replies
  have begins : ¬ seqLess p.endSequenceNo startSeq := by
    unfold seqLess
    bv_omega
  rw [queued, List.cons_append, List.dropWhile_cons_of_neg (by simpa using begins),
    List.takeWhile_cons_of_pos (by simpa using seqLE_refl _)] at replies
  have inside := List.mem_cons_self (a := p)
    (l := (rest ++ [last]).takeWhile fun i => seqLE i.endSequenceNo p.endSequenceNo)
  rw [replies] at inside
  have new : p ∈ [last] := List.dropWhile_subset _ (List.takeWhile_subset _ inside)
  exact other (congrArg (fun i => i.msg.name) (List.mem_singleton.mp new))

theorem deleted_after_init (queued : q.payloadQueue = p :: rest) {startSeq : BitVec 32}
    (behind : seqLE p.endSequenceNo startSeq) : ¬ (q.init startSeq).Alike (create.init startSeq) := by
  intro alike
  have reply (q : TCPMsgBasedSendQueue) : responses call (q.init startSeq) [.discardUpTo startSeq] =
      [.ok ⟨none, (q.payloadQueue.takeWhile fun i => seqLE i.endSequenceNo startSeq).map (·.msg)⟩] := by
    have called := (q.init startSeq).discard_eq startSeq ⟨seqLE_refl _, seqLE_refl _⟩
    rw [responses_cons called]
    rfl
  have replies := (reply q).symm.trans ((alike _).trans (reply create))
  rw [queued, List.takeWhile_cons_of_pos (by simpa using behind)] at replies
  cases replies

/-- A message that is left and ends 2^31 numbers from `startSeq` keeps a new one from being
deleted. -/
theorem kept_after_init (queued : q.payloadQueue = p :: rest) {startSeq : BitVec 32}
    (opposite : (p.endSequenceNo - startSeq).toNat = 2 ^ 31) :
    ¬ (q.init startSeq).Alike (create.init startSeq) := by
  intro alike
  let msg : CMessage := ⟨"data", 8⟩
  let last : TCPPayloadMessage := ⟨startSeq + 1, msg⟩
  have one : msg.bytes = 1 := by decide
  have reply (q : TCPMsgBasedSendQueue) : responses call (q.init startSeq)
      [.enqueueAppData msg, .discardUpTo (startSeq + 1)] =
        [.ok ⟨none, []⟩, .ok ⟨none, ((q.payloadQueue ++ [last]).takeWhile
          fun i => seqLE i.endSequenceNo (startSeq + 1)).map (·.msg)⟩] := by
    have first : (q.init startSeq).call (.enqueueAppData msg) =
        .ok (⟨none, []⟩, ⟨startSeq, startSeq + 1, q.payloadQueue ++ [last]⟩) := by
      rw [enqueue_eq, one]
      rfl
    rw [responses_cons first, responses_cons (discard_eq _ ⟨?_, seqLE_refl _⟩)]
    · rfl
    · unfold seqLE
      bv_omega
  have replies := (reply q).symm.trans ((alike _).trans (reply create))
  have blocks : ¬ seqLE p.endSequenceNo (startSeq + 1) := by
    unfold seqLE
    bv_omega
  have deleted : seqLE last.endSequenceNo (startSeq + 1) := seqLE_refl _
  have empty : create.payloadQueue = [] := rfl
  rw [empty] at replies
  rw [queued, List.cons_append, List.takeWhile_cons_of_neg (by simpa using blocks),
    List.nil_append, List.takeWhile_cons_of_pos (by simpa using deleted)] at replies
  cases replies

/-- After `init` the queue of messages is like a new one exactly if no message is left in it. -/
theorem alike_init_iff (startSeq : BitVec 32) :
    (q.init startSeq).Alike (create.init startSeq) ↔ q.payloadQueue = [] := by
  constructor
  · intro alike
    cases queued : q.payloadQueue with
    | nil => rfl
    | cons p rest =>
        exfalso
        by_cases ahead : (p.endSequenceNo - startSeq).toNat < 2 ^ 31
        · exact sent_after_init queued ahead alike
        · by_cases opposite : (p.endSequenceNo - startSeq).toNat = 2 ^ 31
          · exact kept_after_init queued opposite alike
          · refine deleted_after_init queued ?_ alike
            unfold seqLE
            bv_omega
  · intro empty
    have same : q.init startSeq = create.init startSeq := by
      unfold init create
      rw [empty]
    rw [same]
    exact fun _ => rfl

/-- The two send queues take the same calls and have the same end at any time. After `init` the
queue of bytes is a new one, and the queue of messages is like a new one exactly if no message is
left in it. -/
theorem init_flushes_iff (calls : List TCPSendQueueCall) :
    (TCPVirtualDataSendQueue.bufferEndSeq <$> run TCPVirtualDataSendQueue.step .create calls) =
        bufferEndSeq <$> run step create calls ∧
      (∀ q, run TCPVirtualDataSendQueue.step .create calls = .ok q → ∀ startSeq,
        q.init startSeq = TCPVirtualDataSendQueue.create.init startSeq) ∧
      ∀ q, run step create calls = .ok q → ∀ startSeq,
        (q.init startSeq).Alike (create.init startSeq) ↔ q.payloadQueue = [] := by
  refine ⟨?_, fun _ _ _ => rfl, fun q _ startSeq => alike_init_iff startSeq⟩
  have agree : run TCPVirtualDataSendQueue.step .create calls = _ := bytes_run create calls
  rw [agree]
  cases run step create calls <;> rfl

theorem init_flushes_example : ∃ q,
    run step create [.init 1000, .enqueueAppData ⟨"old", 800⟩, .discardUpTo 1100] = .ok q ∧
      (q.init 1000).Alike (create.init 1000) := by
  have flushes := init_flushes_iff [.init 1000, .enqueueAppData ⟨"old", 800⟩, .discardUpTo 1100]
  exact ⟨_, rfl, (flushes.2.2 _ rfl 1000).mpr rfl⟩

/-- A message enqueued before `init` is in the first segment after it. -/
theorem message_left_by_init :
    ¬ ∀ calls q, run step create calls = .ok q → ∀ startSeq,
      (q.init startSeq).Alike (create.init startSeq) := by
  intro claim
  have alike := claim [.init 1000, .enqueueAppData ⟨"old", 800⟩] _ rfl 1000
  exact absurd ((alike_init_iff 1000).mp alike) (List.cons_ne_nil _ _)

end TCPMsgBasedSendQueue

end IPv6Suite
