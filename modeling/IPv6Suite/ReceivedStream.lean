import IPv6Suite.Lib.Machine
import IPv6Suite.TCPVirtualDataQueues

namespace IPv6Suite

open Lib SerialNumber

/-- The two calls that change the queue; bytes are extracted up to `rcv_nxt`. -/
inductive RcvQueueCall where
  | insertBytesFromSegment (tcpseg : TCPSegment)
  | extractBytesUpTo

/-- A queue with the stream it has seen: the places of all bytes that have arrived, counted
from `start`, and how many bytes have been handed up. -/
structure ReceivedStream where
  start : BitVec 32
  queue : TCPVirtualDataRcvQueue
  received : List (Extent Nat)
  extracted : Nat

namespace ReceivedStream

def create (start : BitVec 32) : ReceivedStream where
  start
  queue := ⟨start, []⟩
  received := []
  extracted := 0

/-- The place of the first byte that has not arrived. -/
def next (h : ReceivedStream) : Nat := Extent.firstGap 0 h.received

/-- The places of the bytes of a segment that lies beyond `rcv_nxt`. -/
def arrival (h : ReceivedStream) (tcpseg : TCPSegment) : Extent Nat :=
  let lo := h.next + (tcpseg.sequenceNo - h.queue.rcvNxt).toNat
  ⟨lo, lo + tcpseg.payloadLength⟩

def arrive (h : ReceivedStream) (tcpseg : TCPSegment) : List (Extent Nat) :=
  Extent.insert (h.arrival tcpseg) h.received

def step (h : ReceivedStream) : RcvQueueCall → Exec ReceivedStream
  | .insertBytesFromSegment tcpseg =>
      .ok { h with
        queue := (h.queue.insertBytesFromSegment tcpseg).2
        received := h.arrive tcpseg }
  | .extractBytesUpTo => do
      let (msg, queue) ← h.queue.extractBytesUpTo h.queue.rcvNxt
      return { h with queue, extracted := h.extracted + (msg.map (·.bytes)).getD 0 }

/-- Segments are not empty and lie within 2^30 bytes from `rcv_nxt`. -/
def InWindow (h : ReceivedStream) : RcvQueueCall → Prop
  | .insertBytesFromSegment tcpseg =>
      0 < tcpseg.payloadLength ∧
        (tcpseg.sequenceNo - h.queue.rcvNxt).toNat + tcpseg.payloadLength ≤ 2 ^ 30
  | .extractBytesUpTo => True

/-- At most 2^31 contiguous bytes wait to be extracted, and none is extracted while the
first region holds the byte with the largest sequence number. -/
def Comparable (h : ReceivedStream) : RcvQueueCall → Prop
  | .insertBytesFromSegment tcpseg =>
      Extent.firstGap 0 (h.arrive tcpseg) ≤ h.extracted + 2 ^ 31
  | .extractBytesUpTo => ¬ ∃ i ∈ h.queue.regionList.head?, i.HoldsLast

/-- The regions are the bytes that have arrived and have not been handed up, and `rcv_nxt`
is the first byte that has not arrived. -/
def Consistent (h : ReceivedStream) : Prop :=
  TCPVirtualDataRcvQueue.Stores h.start h.received h.extracted h.queue

/-- The call is carried out, `rcv_nxt` does not go back, and an extraction has handed up
everything before it. -/
def Proceeds (h : ReceivedStream) (call : RcvQueueCall) : Prop :=
  ∃ h', h.step call = .ok h' ∧ h'.Consistent ∧ h.next ≤ h'.next ∧
    match call with
    | .insertBytesFromSegment _ => h'.extracted = h.extracted
    | .extractBytesUpTo => h'.extracted = h'.next

variable {h h' : ReceivedStream}

theorem consistent_create (start : BitVec 32) : (create start).Consistent :=
  TCPVirtualDataRcvQueue.stores_init start

theorem proceeds_insert {tcpseg : TCPSegment} (consistent : h.Consistent)
    (inWindow : h.InWindow (.insertBytesFromSegment tcpseg))
    (comparable : h.Comparable (.insertBytesFromSegment tcpseg)) : h.Proceeds (.insertBytesFromSegment tcpseg) := by
  obtain ⟨nonempty, window⟩ := inWindow
  have filled : (h.arrival tcpseg).lo < (h.arrival tcpseg).hi := Nat.lt_add_of_pos_right nonempty
  have sequenceNo : tcpseg.sequenceNo = place h.start (h.arrival tcpseg).lo := by
    unfold arrival next
    dsimp only
    rw [← place_add, ← consistent.rcvNxt, BitVec.ofNat_toNat, BitVec.setWidth_eq, BitVec.add_comm,
      BitVec.sub_add_cancel]
  have near : (h.arrival tcpseg).hi < Extent.firstGap 0 h.received + 2 ^ 31 := by
    unfold arrival next
    dsimp only
    omega
  have stores := consistent.insertBytesFromSegment filled sequenceNo rfl (Nat.le_add_right _ _) near
    comparable
  exact ⟨_, rfl, stores, Extent.firstGap_insert_le filled consistent.separated, rfl⟩

/-- An extraction goes through exactly if the assertion of `extractTo` does. -/
theorem proceeds_extract_iff (consistent : h.Consistent) :
    h.Proceeds .extractBytesUpTo ↔ h.Comparable .extractBytesUpTo := by
  have extracts := consistent.extractTo
  split at extracts
  · rename_i last
    refine ⟨?_, fun comparable => absurd last comparable⟩
    rintro ⟨h', done, -⟩
    unfold step TCPVirtualDataRcvQueue.extractBytesUpTo at done
    rw [extracts] at done
    cases done
  · rename_i plain
    refine ⟨fun _ => plain, fun _ => ?_⟩
    obtain ⟨q', extracted, stores, -⟩ := extracts
    have taken := consistent.taken
    have count : h.extracted + ((if h.next - h.extracted = 0 then none else
        some (CMessage.mk "data" (8 * (h.next - h.extracted)))).map (·.bytes)).getD 0 = h.next := by
      change h.extracted ≤ h.next at taken
      split
      · dsimp only [Option.map_none, Option.getD_none]
        omega
      · change h.extracted + (8 * (h.next - h.extracted)) >>> 3 = h.next
        rw [Nat.shiftRight_eq_div_pow]
        omega
    refine ⟨{ h with queue := q', extracted := h.next }, ?_, stores, Nat.le_refl _, rfl⟩
    unfold step TCPVirtualDataRcvQueue.extractBytesUpTo
    rw [extracted]
    simp only [ok_bind, pure_eq_ok]
    rw [← count]
    rfl

theorem proceeds (consistent : h.Consistent) {call : RcvQueueCall} (inWindow : h.InWindow call)
    (comparable : h.Comparable call) : h.Proceeds call := by
  cases call with
  | insertBytesFromSegment tcpseg => exact proceeds_insert consistent inWindow comparable
  | extractBytesUpTo => exact (proceeds_extract_iff consistent).mpr comparable

/-- In every run whose steps keep the sequence numbers comparable the queue stores what has
arrived, and every further such call is carried out. -/
theorem consistent_of_comparable {start : BitVec 32} {calls : List RcvQueueCall}
    (runs : Runs step (fun h call => h.InWindow call ∧ h.Comparable call) (create start) calls h) :
    h.Consistent ∧ (∀ call, h.InWindow call → h.Comparable call → h.Proceeds call) ∧
      (h.Proceeds .extractBytesUpTo → h.Comparable .extractBytesUpTo) := by
  have consistent : h.Consistent := by
    refine runs.invariant Consistent (fun s call s' consistent meets done => ?_)
      (consistent_create start)
    obtain ⟨t, steps, kept, -⟩ := proceeds consistent meets.1 meets.2
    rw [done] at steps
    cases steps
    exact kept
  exact ⟨consistent, fun call => proceeds consistent, (proceeds_extract_iff consistent).mp⟩

/-- Bytes 100 to 199 and then 0 to 99 of a stream. -/
def exampleSegment (sequenceNo : BitVec 32) : TCPSegment :=
  { TCPSegment.create with sequenceNo, payloadLength := 100 }

theorem consistent_of_comparable_example : ∃ h,
    Runs step (fun h call => h.InWindow call ∧ h.Comparable call) (create 1000)
      [.insertBytesFromSegment (exampleSegment 1100), .insertBytesFromSegment (exampleSegment 1000),
        .extractBytesUpTo] h ∧ h.Consistent ∧ h.extracted = 200 := by
  have runs : Runs step (fun h call => h.InWindow call ∧ h.Comparable call) (create 1000)
      [.insertBytesFromSegment (exampleSegment 1100), .insertBytesFromSegment (exampleSegment 1000),
        .extractBytesUpTo] _ :=
    .cons ⟨⟨by decide, by decide⟩, Nat.le_of_ble_eq_true rfl⟩ rfl
      (.cons ⟨⟨by decide, by decide⟩, Nat.le_of_ble_eq_true rfl⟩ rfl
        (.cons ⟨trivial, fun ⟨_, found, last⟩ => by cases found; exact absurd last (by decide)⟩ rfl
          (.nil _)))
  exact ⟨_, runs, (consistent_of_comparable runs).1, by decide⟩

/-- A segment that crosses the largest sequence number makes the assertion fail. -/
theorem extraction_fails_at_wrap_around :
    ¬ ∀ start calls h call, Runs step InWindow (create start) calls h → h.InWindow call →
      h.Proceeds call := by
  intro claim
  have runs : Runs step InWindow (create 0xFFFFFF9C)
      [.insertBytesFromSegment (exampleSegment 0xFFFFFF9C)] _ :=
    .cons ⟨by decide, by decide⟩ rfl (.nil _)
  obtain ⟨h', done, -⟩ := claim _ _ _ .extractBytesUpTo runs trivial
  have fails : step { create 0xFFFFFF9C with
      queue := ((create 0xFFFFFF9C).queue.insertBytesFromSegment (exampleSegment 0xFFFFFF9C)).2
      received := (create 0xFFFFFF9C).arrive (exampleSegment 0xFFFFFF9C) } .extractBytesUpTo =
      .error .assertFailed := rfl
  rw [fails] at done
  cases done

end ReceivedStream

end IPv6Suite
