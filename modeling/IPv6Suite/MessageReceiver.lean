import IPv6Suite.Lib.Machine
import IPv6Suite.TCPMsgBasedRcvQueue
import IPv6Suite.TCPMsgBasedSendQueue

namespace IPv6Suite

open Lib SerialNumber

/-- A receiver of a stream of messages: what has arrived of it, and what has been handed up. -/
structure MessageReceiver where
  start : BitVec 32
  messages : List CMessage
  queue : TCPMsgBasedRcvQueue
  received : List (Extent Nat)
  handed : List CMessage

namespace MessageReceiver

def create (start : BitVec 32) (messages : List CMessage) : MessageReceiver where
  start
  messages
  queue := ⟨⟨start, []⟩, Std.TreeMap.empty⟩
  received := []
  handed := []

/-- The place of the first byte that has not arrived. -/
def next (h : MessageReceiver) : Nat := Extent.firstGap 0 h.received

/-- The segment with a part of the stream, and with the messages that end in it. -/
def segment (h : MessageReceiver) (part : Extent Nat) : TCPSegment :=
  { TCPSegment.create with
    sequenceNo := place h.start part.lo
    payloadLength := part.hi - part.lo
    payload := (carried h.messages part.lo part.hi).map (toPayload h.start) }

/-- A segment is inserted, and messages are handed up until there is none. -/
def step (h : MessageReceiver) (part : Extent Nat) : Exec MessageReceiver := do
  let (rcvNxt, queue) := h.queue.insertBytesFromSegment (h.segment part)
  let (msgs, queue) ← TCPMsgBasedRcvQueue.extractMessages rcvNxt (queue.payloadList.size + 1) queue
  return { h with
    queue
    received := Extent.insert part h.received
    handed := h.handed ++ msgs }

/-- Segments are parts of the stream from `rcv_nxt` on, and end less than 2^31 after it. -/
def InWindow (h : MessageReceiver) (part : Extent Nat) : Prop :=
  h.next ≤ part.lo ∧ part.lo < part.hi ∧ part.hi ≤ totalBytes h.messages ∧
    part.hi < h.next + 2 ^ 31

/-- The messages whose last byte is below `rcv_nxt` have been handed up, in order. -/
def InOrder (h : MessageReceiver) : Prop := h.handed = (carried h.messages 0 h.next).map (·.2)

/-- The queue holds what has arrived from `rcv_nxt` on and nothing before it. -/
structure Holds (h : MessageReceiver) : Prop where
  stores : h.queue.toTCPVirtualDataRcvQueue.Stores h.start h.received h.next
  within : ∀ n, Extent.Covers h.received n → n < totalBytes h.messages
  buffered : TCPMsgBasedRcvQueue.Buffered h.start h.messages h.queue.payloadList fun e =>
    h.next < e ∧ Extent.Covers h.received (e - 1)
  inOrder : h.InOrder

variable {h h' : MessageReceiver} {part : Extent Nat}

theorem holds_create (start : BitVec 32) (messages : List CMessage) :
    (create start messages).Holds where
  stores := TCPVirtualDataRcvQueue.stores_init start
  within := fun _ covered => absurd covered Extent.covers_nil
  buffered := by
    intro k msg
    constructor
    · intro stored
      change (∅ : StdMap (BitVec 32) CMessage (· < ·))[k]? = some msg at stored
      rw [Std.TreeMap.getElem?_emptyc] at stored
      cases stored
    · rintro ⟨e, -, ⟨-, covered⟩, -⟩
      exact absurd covered Extent.covers_nil
  inOrder := by
    have none : carried messages 0 0 = [] := by
      refine List.filter_eq_nil_iff.mpr fun p _ => ?_
      simp only [decide_eq_true_eq]
      omega
    change [] = (carried messages 0 0).map (·.2)
    rw [none]
    rfl

theorem stores_segment (stores : h.queue.toTCPVirtualDataRcvQueue.Stores h.start h.received h.next)
    (window : h.InWindow part) :
    (h.queue.toTCPVirtualDataRcvQueue.insertBytesFromSegment (h.segment part)).2.Stores h.start
      (Extent.insert part h.received) h.next := by
  obtain ⟨behind, nonempty, inside, near⟩ := window
  have arrived := Extent.separated_insert (s := part) nonempty stores.separated
  refine stores.insertBytesFromSegment (i := part) nonempty rfl ?_ behind near ?_
  · exact Nat.add_sub_cancel' (Nat.le_of_lt nonempty)
  · by_contra beyond
    have covered := Extent.covers_of_lt_firstGap (a := 0) (b := h.next + 2 ^ 31) arrived
      (Nat.zero_le _) (Nat.lt_of_not_le beyond)
    rcases (Extent.covers_insert stores.separated).mp covered with contains | old
    · have high : h.next + 2 ^ 31 < part.hi := contains.2
      omega
    · have bound := stores.near _ old
      unfold next at bound
      omega

theorem buffered_segment (nonempty : ∀ msg ∈ h.messages, 0 < msg.bytes)
    (unwrapped : h.start.toNat + totalBytes h.messages < 2 ^ 32) (holds : h.Holds) (window : h.InWindow part) :
    TCPMsgBasedRcvQueue.Buffered h.start h.messages
      ((h.segment part).payload.foldl TCPMsgBasedRcvQueue.insertPayload h.queue.payloadList)
      fun e => h.next < e ∧ Extent.Covers (Extent.insert part h.received) (e - 1) := by
  obtain ⟨behind, -, -, -⟩ := window
  refine (holds.buffered.foldl_insertPayload nonempty unwrapped
    fun p inside => (List.mem_filter.mp inside).1).congr fun p ending => ?_
  rw [Extent.covers_insert holds.stores.separated]
  constructor
  · rintro (⟨above, covered⟩ | ⟨msg, inside⟩)
    · exact ⟨above, Or.inr covered⟩
    · have listed : (p.1, msg) ∈ carried h.messages part.lo part.hi := inside
      have bounds := carried_bounds _ listed
      refine ⟨by omega, Or.inl ⟨?_, ?_⟩⟩
      · omega
      · omega
  · rintro ⟨above, contains | covered⟩
    · have low : part.lo ≤ p.1 - 1 := contains.1
      have high : p.1 - 1 < part.hi := contains.2
      exact Or.inr ⟨p.2, List.mem_filter.mpr ⟨ending, by simp only [decide_eq_true_eq]; omega⟩⟩
    · exact Or.inl ⟨above, covered⟩

/-- In a stream that does not wrap around every segment is taken and hands up its messages. -/
theorem holds_step (nonempty : ∀ msg ∈ h.messages, 0 < msg.bytes)
    (unwrapped : h.start.toNat + totalBytes h.messages < 2 ^ 32) (holds : h.Holds)
    (window : h.InWindow part) : ∃ h', h.step part = .ok h' ∧ h'.Holds ∧
      h'.start = h.start ∧ h'.messages = h.messages := by
  have stores := stores_segment holds.stores window
  have further : h.next ≤ Extent.firstGap 0 (Extent.insert part h.received) :=
    Extent.firstGap_insert_le window.2.1 holds.stores.separated
  have within : ∀ n, Extent.Covers (Extent.insert part h.received) n →
      n < totalBytes h.messages := by
    intro n covered
    rcases (Extent.covers_insert holds.stores.separated).mp covered with contains | old
    · exact Nat.lt_of_lt_of_le contains.2 window.2.2.1
    · exact holds.within n old
  obtain ⟨queue, done, stores', buffered'⟩ := TCPMsgBasedRcvQueue.extractMessages_eq nonempty
    unwrapped (q := (h.queue.insertBytesFromSegment (h.segment part)).2) rfl stores within further
    stores.contiguous (buffered_segment nonempty unwrapped holds window)
  have inOrder : h.handed ++ (carried h.messages h.next
      (Extent.firstGap 0 (Extent.insert part h.received))).map (·.2) =
      (carried h.messages 0 (Extent.firstGap 0 (Extent.insert part h.received))).map (·.2) := by
    have before := holds.inOrder
    unfold InOrder at before
    rw [before, ← List.map_append, carried_append nonempty (Nat.zero_le _) further]
  refine ⟨{ h with
    queue
    received := Extent.insert part h.received
    handed := h.handed ++ (carried h.messages h.next
      (Extent.firstGap 0 (Extent.insert part h.received))).map (·.2) }, ?_,
    ⟨stores', within, buffered', inOrder⟩, rfl, rfl⟩
  have rcvNxt : (h.queue.insertBytesFromSegment (h.segment part)).1 =
      place h.start (Extent.firstGap 0 (Extent.insert part h.received)) := stores.rcvNxt
  unfold step
  dsimp only
  rw [rcvNxt, done]
  rfl

/-! ### Streams that wrap around -/

/-- The bytes are stored as they arrive, and `rcv_nxt` has not come to the byte with the
largest number. -/
structure BeforeLast (h : MessageReceiver) : Prop where
  stores : h.queue.toTCPVirtualDataRcvQueue.Stores h.start h.received h.next
  before : h.start.toNat + h.next < 2 ^ 32

variable {start : BitVec 32} {received : List (Extent Nat)} {extracted : Nat}

theorem holdsLast_of_passed {bytes : TCPVirtualDataRcvQueue}
    (stores : bytes.Stores start received extracted) (before : start.toNat + extracted < 2 ^ 32)
    (passed : 2 ^ 32 ≤ start.toNat + Extent.firstGap 0 received) : ∃ i ∈ bytes.regionList.head?, i.HoldsLast := by
  obtain ⟨rs, list, separated, covers⟩ := stores.regions
  have contiguous := stores.contiguous
  have last : BitVec.allOnes 32 = place start (2 ^ 32 - 1 - start.toNat) := by
    refine BitVec.eq_of_toNat_eq ?_
    rw [BitVec.toNat_allOnes, toNat_place, Nat.mod_eq_of_lt (by omega)]
    omega
  cases rs with
  | nil =>
      have inside := Extent.covers_of_lt_firstGap (b := extracted) stores.separated (Nat.zero_le _)
        (by omega)
      exact absurd ((covers extracted).mpr ⟨inside, Nat.le_refl _⟩) Extent.covers_nil
  | cons i rest =>
      rcases TCPVirtualDataRcvQueue.first_region stores.separated stores.taken separated covers with
        ⟨pending, same⟩ | ⟨none, -⟩
      · refine ⟨.ofExtent start i, by rw [list]; rfl, ?_⟩
        unfold Region.HoldsLast
        rw [Region.beginSeq_ofExtent, Region.endSeq_ofExtent, same, last]
        dsimp only
        rw [toNat_sub_place start (by omega) (by omega), toNat_sub_place start (by omega) (by omega)]
        omega
      · omega

theorem extractBytesUpTo_stores {q q' : TCPMsgBasedRcvQueue} {msg : Option CMessage}
    (stores : q.toTCPVirtualDataRcvQueue.Stores start received extracted)
    (before : start.toNat + extracted < 2 ^ 32)
    (extracts : q.extractBytesUpTo (place start (Extent.firstGap 0 received)) = .ok (msg, q')) :
    q'.toTCPVirtualDataRcvQueue.Stores start received (Extent.firstGap 0 received) ∧
      start.toNat + Extent.firstGap 0 received < 2 ^ 32 := by
  have bytes := stores.extractTo
  rw [stores.rcvNxt] at bytes
  unfold TCPMsgBasedRcvQueue.extractBytesUpTo at extracts
  split at bytes
  · rw [bytes] at extracts
    cases extracts
  · rename_i plain
    obtain ⟨b, done, kept, -⟩ := bytes
    rw [done, ok_bind] at extracts
    refine ⟨?_, ?_⟩
    · dsimp only at extracts
      split at extracts
      · cases extracts
        exact kept
      · split at extracts
        · cases extracts
          exact kept
        · cases extracts
          exact kept
    · by_contra passed
      exact plain (holdsLast_of_passed stores before (Nat.le_of_not_lt passed))

theorem extractMessages_stores {rounds : Nat} {q q' : TCPMsgBasedRcvQueue} {msgs : List CMessage}
    (stores : q.toTCPVirtualDataRcvQueue.Stores start received extracted)
    (before : start.toNat + extracted < 2 ^ 32)
    (extracts : TCPMsgBasedRcvQueue.extractMessages (place start (Extent.firstGap 0 received))
      rounds q = .ok (msgs, q')) : rounds = 0 ∧ q' = q ∨
      q'.toTCPVirtualDataRcvQueue.Stores start received (Extent.firstGap 0 received) ∧
        start.toNat + Extent.firstGap 0 received < 2 ^ 32 := by
  induction rounds generalizing q msgs extracted with
  | zero =>
      cases extracts
      exact Or.inl ⟨rfl, rfl⟩
  | succ rounds ih =>
      unfold TCPMsgBasedRcvQueue.extractMessages at extracts
      obtain ⟨⟨msg, middle⟩, first, extracts⟩ := bind_eq_ok.mp extracts
      have kept := extractBytesUpTo_stores stores before first
      refine Or.inr ?_
      cases msg with
      | none =>
          cases extracts
          exact kept
      | some msg =>
          obtain ⟨⟨others, last⟩, rest, extracts⟩ := bind_eq_ok.mp extracts
          cases extracts
          rcases ih kept.1 kept.2 rest with ⟨-, rfl⟩ | later
          · exact kept
          · exact later

/-- No segment that is taken moves `rcv_nxt` past that byte. -/
theorem beforeLast_step (beforeLast : h.BeforeLast) (window : h.InWindow part)
    (done : h.step part = .ok h') : h'.BeforeLast ∧ h'.start = h.start ∧ h'.messages = h.messages := by
  have stores := stores_segment beforeLast.stores window
  have rcvNxt : (h.queue.insertBytesFromSegment (h.segment part)).1 =
      place h.start (Extent.firstGap 0 (Extent.insert part h.received)) := stores.rcvNxt
  unfold step at done
  dsimp only at done
  rw [rcvNxt] at done
  obtain ⟨⟨msgs, queue⟩, extracts, done⟩ := bind_eq_ok.mp done
  cases done
  rcases extractMessages_stores (q := (h.queue.insertBytesFromSegment (h.segment part)).2) stores
    beforeLast.before extracts with ⟨none, -⟩ | ⟨kept, before⟩
  · exact absurd none (Nat.succ_ne_zero _)
  · exact ⟨⟨kept, before⟩, rfl, rfl⟩

/-- Every arrival order hands up each message once, in stream order and as soon as its last
byte is below `rcv_nxt`, if the stream ends before the byte with the largest sequence number.
Otherwise that byte is never passed. -/
theorem handed_in_order {start : BitVec 32} {messages : List CMessage}
    {parts : List (Extent Nat)} (nonempty : ∀ msg ∈ messages, 0 < msg.bytes)
    (runs : Runs step InWindow (create start messages) parts h) :
    (start.toNat + totalBytes messages < 2 ^ 32 →
      h.InOrder ∧ ∀ part, h.InWindow part → ∃ h', h.step part = .ok h' ∧ h'.InOrder) ∧
    (2 ^ 32 ≤ start.toNat + totalBytes messages → start.toNat + h.next < 2 ^ 32) := by
  constructor
  · intro unwrapped
    obtain ⟨holds, same, same'⟩ := runs.invariant
      (fun s => s.Holds ∧ s.start = start ∧ s.messages = messages)
      (fun s part s' ⟨holds, same, same'⟩ window done => by
        obtain ⟨t, steps, kept, start', messages'⟩ := holds_step (same' ▸ nonempty)
          (by rw [same, same']; exact unwrapped) holds window
        rw [done] at steps
        cases steps
        exact ⟨kept, start'.trans same, messages'.trans same'⟩)
      ⟨holds_create start messages, rfl, rfl⟩
    refine ⟨holds.inOrder, fun part window => ?_⟩
    obtain ⟨h', done, kept, -⟩ := holds_step (same' ▸ nonempty)
      (by rw [same, same']; exact unwrapped) holds window
    exact ⟨h', done, kept.inOrder⟩
  · intro _
    obtain ⟨beforeLast, same⟩ := runs.invariant (fun s => s.BeforeLast ∧ s.start = start)
      (fun s part s' ⟨beforeLast, same⟩ window done => by
        obtain ⟨kept, start', -⟩ := beforeLast_step beforeLast window done
        exact ⟨kept, start'.trans same⟩)
      ⟨⟨(holds_create start messages).stores, start.isLt⟩, rfl⟩
    rw [← same]
    exact beforeLast.before

/-- Three messages of ten bytes each. -/
def exampleMessages : List CMessage := [⟨"a", 80⟩, ⟨"b", 80⟩, ⟨"c", 80⟩]

theorem exampleMessages_nonempty : ∀ msg ∈ exampleMessages, 0 < msg.bytes := by decide

theorem handed_in_order_example :
    ∃ h, Runs step InWindow (create 1000 exampleMessages) [⟨10, 15⟩, ⟨0, 10⟩] h ∧ h.InOrder := by
  have runs : Runs step InWindow (create 1000 exampleMessages) [⟨10, 15⟩, ⟨0, 10⟩] _ :=
    .cons ⟨by decide, by decide, by decide, by decide⟩ rfl
      (.cons ⟨by decide, by decide, by decide, by decide⟩ rfl (.nil _))
  exact ⟨_, runs, ((handed_in_order exampleMessages_nonempty runs).1 (by decide)).1⟩

/-- The message with the byte of the largest number is not handed up. -/
theorem message_lost_at_wrap_around :
    ¬ ∀ start messages parts h part, (∀ msg ∈ messages, 0 < msg.bytes) →
      Runs step InWindow (create start messages) parts h → h.InWindow part →
        ∃ h', h.step part = .ok h' ∧ h'.InOrder := by
  intro claim
  have window : (create 0xFFFFFFF6 exampleMessages).InWindow ⟨0, 10⟩ :=
    ⟨by decide, by decide, by decide, by decide⟩
  obtain ⟨h', done, -⟩ := claim _ _ [] _ ⟨0, 10⟩ exampleMessages_nonempty (.nil _) window
  have fails : (create 0xFFFFFFF6 exampleMessages).step ⟨0, 10⟩ = .error .assertFailed := rfl
  rw [fails] at done
  cases done

/-! ### From the sender to the receiver -/

/-- What is done with a segment that arrives -/
def take (h : MessageReceiver) (part : Extent Nat) (tcpseg : TCPSegment) : Exec MessageReceiver := do
  let (rcvNxt, queue) := h.queue.insertBytesFromSegment tcpseg
  let (msgs, queue) ← TCPMsgBasedRcvQueue.extractMessages rcvNxt (queue.payloadList.size + 1) queue
  return { h with
    queue
    received := Extent.insert part h.received
    handed := h.handed ++ msgs }

end MessageReceiver

/-- A sender of messages and the receiver of its segments, which the network may lose, reorder and duplicate: `wire` has
all that were ever sent, each with the part of the stream it is made for. -/
structure MessageTransport where
  sender : SentStream
  wire : List (Extent Nat × TCPSegment)
  receiver : MessageReceiver

inductive TransportEvent where
  | enqueue (msg : CMessage)
  | acknowledge (point : Nat)
  | transmit (part : Extent Nat)
  | deliver (k : Nat)

namespace MessageTransport

def create (start : BitVec 32) : MessageTransport := ⟨.create start, [], .create start []⟩

def step (t : MessageTransport) : TransportEvent → Exec MessageTransport
  | .enqueue msg => do
      let sender ← t.sender.step (.enqueueAppData msg)
      return { t with sender, receiver := { t.receiver with messages := sender.messages } }
  | .acknowledge point => do return { t with sender := ← t.sender.step (.discardUpTo point) }
  | .transmit part => do
      let tcpseg ← t.sender.queue.createSegmentWithBytes (place t.sender.start part.lo) (part.hi - part.lo)
      return { t with wire := t.wire ++ [(part, tcpseg)] }
  | .deliver k =>
      match t.wire[k]? with
      | none => .ok t
      | some (part, tcpseg) => do return { t with receiver := ← t.receiver.take part tcpseg }

/-- The stream ends before the byte with the largest sequence number, what is acknowledged has arrived, no segment
begins where a queued message ends, and the receiver takes those from `rcv_nxt` on. -/
def Admits (t : MessageTransport) : TransportEvent → Prop
  | .enqueue msg => t.sender.Allowed (.enqueueAppData msg) ∧ t.sender.Bounded (.enqueueAppData msg) ∧
      t.sender.start.toNat + totalBytes (t.sender.messages ++ [msg]) < 2 ^ 32
  | .acknowledge point => t.sender.discarded ≤ point ∧ point ≤ t.receiver.next
  | .transmit part => t.sender.discarded ≤ part.lo ∧ part.lo < part.hi ∧ part.hi ≤ totalBytes t.sender.messages ∧
      ¬ t.sender.EndsAt part.lo
  | .deliver k => ∀ p ∈ t.wire[k]?, t.receiver.next ≤ p.1.lo ∧ p.1.hi < t.receiver.next + 2 ^ 31

structure Kept (t : MessageTransport) : Prop where
  sender : t.sender.Holds
  receiver : t.receiver.Holds
  same : t.receiver.messages = t.sender.messages ∧ t.receiver.start = t.sender.start
  unwrapped : t.sender.start.toNat + totalBytes t.sender.messages < 2 ^ 32
  wire : ∀ p ∈ t.wire, p.1.lo < p.1.hi ∧ p.1.hi ≤ totalBytes t.sender.messages ∧ p.2 = t.receiver.segment p.1

variable {t t' : MessageTransport} {e : TransportEvent}

end MessageTransport

end IPv6Suite
