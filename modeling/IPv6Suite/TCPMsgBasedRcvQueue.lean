import IPv6Suite.Lib.StdMap
import IPv6Suite.MessageStream
import IPv6Suite.TCPVirtualDataQueues

namespace IPv6Suite

open Lib SerialNumber

/-- The queue of bytes with the messages whose last byte has arrived, by their ends. -/
structure TCPMsgBasedRcvQueue extends TCPVirtualDataRcvQueue where
  payloadList : StdMap (BitVec 32) CMessage (· < ·)

namespace TCPMsgBasedRcvQueue

/-- A message is inserted unless one with the same end is there. -/
def insertPayload (payloadList : StdMap (BitVec 32) CMessage (· < ·)) (p : TCPPayloadMessage) :
    StdMap (BitVec 32) CMessage (· < ·) :=
  if p.endSequenceNo ∈ payloadList then payloadList else payloadList.insert p.endSequenceNo p.msg

def insertBytesFromSegment (q : TCPMsgBasedRcvQueue) (tcpseg : TCPSegment) :
    BitVec 32 × TCPMsgBasedRcvQueue :=
  let (rcvNxt, bytes) := q.toTCPVirtualDataRcvQueue.insertBytesFromSegment tcpseg
  (rcvNxt, ⟨bytes, tcpseg.payload.foldl insertPayload q.payloadList⟩)

/-- The message with the first key, if its end does not come after `seq`. -/
def extractBytesUpTo (q : TCPMsgBasedRcvQueue) (seq : BitVec 32) :
    Exec (Option CMessage × TCPMsgBasedRcvQueue) := do
  let (_, bytes) ← q.extractTo seq
  match q.payloadList.toList.head? with
  | none => return (none, ⟨bytes, q.payloadList⟩)
  | some (endSeq, msg) =>
      if seqGreater endSeq seq then return (none, ⟨bytes, q.payloadList⟩)
      else return (some msg, ⟨bytes, q.payloadList.erase endSeq⟩)

/-- The connection's loop that hands up messages until there is none. Each round takes one
out of `payloadList`. -/
def extractMessages (seq : BitVec 32) :
    (rounds : Nat) → TCPMsgBasedRcvQueue → Exec (List CMessage × TCPMsgBasedRcvQueue)
  | 0, q => .ok ([], q)
  | rounds + 1, q => do
      let (msg, q) ← q.extractBytesUpTo seq
      match msg with
      | none => return ([], q)
      | some msg => do
          let (others, q) ← extractMessages seq rounds q
          return (msg :: others, q)

section Messages

variable {start : BitVec 32} {messages : List CMessage}

/-- The map holds the messages of the stream whose ends are in `held`. -/
def Buffered (start : BitVec 32) (messages : List CMessage)
    (payloadList : StdMap (BitVec 32) CMessage (· < ·)) (held : Nat → Prop) : Prop :=
  ∀ (k : BitVec 32) (msg : CMessage), payloadList[k]? = some msg ↔
    ∃ e, (e, msg) ∈ endings 0 messages ∧ held e ∧ k = place start e

variable {payloadList : StdMap (BitVec 32) CMessage (· < ·)} {held held' : Nat → Prop}

theorem Buffered.congr (buffered : Buffered start messages payloadList held)
    (same : ∀ p ∈ endings 0 messages, held p.1 ↔ held' p.1) : Buffered start messages payloadList held' := by
  intro k msg
  rw [buffered k msg]
  constructor
  · rintro ⟨e, ending, inside, key⟩
    exact ⟨e, ending, (same _ ending).mp inside, key⟩
  · rintro ⟨e, ending, inside, key⟩
    exact ⟨e, ending, (same _ ending).mpr inside, key⟩

variable (nonempty : ∀ msg ∈ messages, 0 < msg.bytes)
variable (unwrapped : start.toNat + totalBytes messages < 2 ^ 32)

include nonempty unwrapped in
/-- In a stream that does not wrap around the keys are ordered as the places are. -/
theorem toNat_place_ending {p : Nat × CMessage} (ending : p ∈ endings 0 messages) :
    (place start p.1).toNat = start.toNat + p.1 := by
  have bounds := endings_bounds nonempty p ending
  rw [toNat_place]
  exact Nat.mod_eq_of_lt (by omega)

include nonempty unwrapped in
theorem place_ending_inj {p q : Nat × CMessage} (first : p ∈ endings 0 messages)
    (second : q ∈ endings 0 messages) (same : place start p.1 = place start q.1) : p.1 = q.1 := by
  have places := congrArg BitVec.toNat same
  rw [toNat_place_ending nonempty unwrapped first, toNat_place_ending nonempty unwrapped second]
    at places
  omega

include nonempty unwrapped in
theorem Buffered.insertPayload (buffered : Buffered start messages payloadList held)
    {p : Nat × CMessage} (ending : p ∈ endings 0 messages) :
    Buffered start messages (insertPayload payloadList (toPayload start p)) fun e => held e ∨ e = p.1 := by
  intro k msg
  unfold TCPMsgBasedRcvQueue.insertPayload
  by_cases present : (toPayload start p).endSequenceNo ∈ payloadList
  · rw [if_pos present, buffered k msg]
    obtain ⟨value, stored⟩ := StdMap.mem_iff_exists.mp present
    obtain ⟨e, listed, inside, key⟩ := (buffered _ _).mp stored
    have same : p.1 = e := place_ending_inj nonempty unwrapped ending listed key
    constructor
    · rintro ⟨f, found, inside, key⟩
      exact ⟨f, found, Or.inl inside, key⟩
    · rintro ⟨f, found, inside' | rfl, key⟩
      · exact ⟨f, found, inside', key⟩
      · exact ⟨_, found, same ▸ inside, key⟩
  · rw [if_neg present]
    by_cases same : (toPayload start p).endSequenceNo = k
    · rw [same, StdMap.getElem?_insert_self]
      constructor
      · intro stored
        cases stored
        exact ⟨p.1, ending, Or.inr rfl, same.symm⟩
      · rintro ⟨f, found, -, key⟩
        have equal : p.1 = f := place_ending_inj nonempty unwrapped ending found (same.trans key)
        subst equal
        rw [endings_unique nonempty found ending]
        rfl
    · rw [StdMap.getElem?_insert_ne same, buffered k msg]
      constructor
      · rintro ⟨f, found, inside, key⟩
        exact ⟨f, found, Or.inl inside, key⟩
      · rintro ⟨f, found, inside | rfl, key⟩
        · exact ⟨f, found, inside, key⟩
        · exact absurd key.symm same

include nonempty unwrapped in
theorem Buffered.foldl_insertPayload {part : List (Nat × CMessage)} (endings : ∀ p ∈ part, p ∈ endings 0 messages)
    (buffered : Buffered start messages payloadList held) :
    Buffered start messages ((part.map (toPayload start)).foldl TCPMsgBasedRcvQueue.insertPayload
      payloadList) fun e => held e ∨ ∃ msg, (e, msg) ∈ part := by
  induction part generalizing payloadList held with
  | nil => exact buffered.congr fun p _ => by simp
  | cons p rest ih =>
      rw [List.map_cons, List.foldl_cons]
      have first := buffered.insertPayload nonempty unwrapped (endings p List.mem_cons_self)
      refine (ih (fun q later => endings q (List.mem_cons_of_mem p later)) first).congr fun q _ => ?_
      obtain ⟨e, msg⟩ := p
      simp only [List.mem_cons, Prod.mk.injEq]
      constructor
      · rintro ((inside | rfl) | ⟨other, later⟩)
        · exact Or.inl inside
        · exact Or.inr ⟨msg, Or.inl ⟨rfl, rfl⟩⟩
        · exact Or.inr ⟨other, Or.inr later⟩
      · rintro (inside | ⟨other, ⟨same, -⟩ | later⟩)
        · exact Or.inl (Or.inl inside)
        · exact Or.inl (Or.inr same)
        · exact Or.inr ⟨other, later⟩

include nonempty unwrapped in
theorem Buffered.erase (buffered : Buffered start messages payloadList held) {p : Nat × CMessage}
    (ending : p ∈ endings 0 messages) :
    Buffered start messages (payloadList.erase (place start p.1)) fun e => held e ∧ e ≠ p.1 := by
  intro k msg
  by_cases same : place start p.1 = k
  · rw [← same, StdMap.getElem?_erase_self]
    constructor
    · intro stored
      cases stored
    · rintro ⟨f, found, ⟨-, apart⟩, key⟩
      exact absurd (place_ending_inj nonempty unwrapped ending found key).symm apart
  · rw [StdMap.getElem?_erase_ne same, buffered k msg]
    constructor
    · rintro ⟨f, found, inside, key⟩
      refine ⟨f, found, ⟨inside, ?_⟩, key⟩
      rintro rfl
      exact same key.symm
    · rintro ⟨f, found, ⟨inside, -⟩, key⟩
      exact ⟨f, found, inside, key⟩

variable {received : List (Extent Nat)} {q : TCPMsgBasedRcvQueue} {extracted : Nat}

theorem not_holdsLast {bytes : TCPVirtualDataRcvQueue} (stores : bytes.Stores start received extracted)
    (below : ∀ n, Extent.Covers received n → start.toNat + n + 1 < 2 ^ 32) :
    ¬ ∃ i ∈ bytes.regionList.head?, i.HoldsLast := by
  rintro ⟨region, first, last⟩
  obtain ⟨rs, list, separated, covers⟩ := stores.regions
  rw [list] at first
  cases rs with
  | nil => cases first
  | cons i rest =>
      cases first
      have filled := separated.nonempty i List.mem_cons_self
      have covered : Extent.Covers (i :: rest) (i.hi - 1) :=
        ⟨i, List.mem_cons_self, by unfold Extent.Contains; omega⟩
      have bound := below _ ((covers _).mp covered).1
      refine (Region.beginSeq_lt_endSeq filled (by omega)).mp ?_ last
      rw [BitVec.lt_def, Region.beginSeq_ofExtent, Region.endSeq_ofExtent, toNat_place,
        toNat_place, Nat.mod_eq_of_lt (by omega), Nat.mod_eq_of_lt (by omega)]
      omega

section Loop

variable {cut : Nat} (stores : q.toTCPVirtualDataRcvQueue.Stores start received extracted)
variable (within : ∀ n, Extent.Covers received n → n < totalBytes messages)
variable (behind : cut ≤ Extent.firstGap 0 received)
variable (near : Extent.firstGap 0 received ≤ cut + 2 ^ 31)
variable (buffered : Buffered start messages q.payloadList fun e =>
  cut < e ∧ Extent.Covers received (e - 1))

include unwrapped stores within in
theorem extractTo_rcvNxt : ∃ n bytes,
    q.toTCPVirtualDataRcvQueue.extractTo (place start (Extent.firstGap 0 received)) = .ok (n, bytes) ∧
      bytes.Stores start received (Extent.firstGap 0 received) := by
  have plain := not_holdsLast stores fun n covered => by have inside := within n covered; omega
  have extracts := stores.extractTo
  rw [if_neg plain, stores.rcvNxt] at extracts
  obtain ⟨bytes, done, kept, -⟩ := extracts
  exact ⟨_, bytes, done, kept⟩

include buffered stores within unwrapped in
theorem extractBytesUpTo_none (empty : carried messages cut (Extent.firstGap 0 received) = []) :
    ∃ bytes, q.extractBytesUpTo (place start (Extent.firstGap 0 received)) = .ok (none, ⟨bytes, q.payloadList⟩) ∧
      bytes.Stores start received (Extent.firstGap 0 received) := by
  obtain ⟨n, bytes, extracts, kept⟩ := extractTo_rcvNxt unwrapped stores within
  refine ⟨bytes, ?_, kept⟩
  unfold extractBytesUpTo
  rw [extracts, ok_bind]
  dsimp only
  cases first : q.payloadList.toList.head? with
  | none => rfl
  | some entry =>
      obtain ⟨stored, -⟩ := StdMap.head?_toList_eq_some _ first
      obtain ⟨e, ending, ⟨above, covered⟩, key⟩ := (buffered _ _).mp stored
      have beyond : Extent.firstGap 0 received < e := by
        by_contra inside
        have listed : (e, entry.2) ∈ carried messages cut (Extent.firstGap 0 received) :=
          List.mem_filter.mpr ⟨ending, by simp only [decide_eq_true_eq]; omega⟩
        rw [empty] at listed
        cases listed
      have bound := stores.near _ covered
      dsimp only
      rw [key, if_pos ((seqGreater_place start (by omega) (by omega)).mpr beyond)]
      rfl

include behind near buffered stores within unwrapped nonempty in
theorem extractBytesUpTo_some {p : Nat × CMessage} {rest : List (Nat × CMessage)}
    (next : carried messages cut (Extent.firstGap 0 received) = p :: rest) :
    ∃ bytes, q.extractBytesUpTo (place start (Extent.firstGap 0 received)) =
        .ok (some p.2, ⟨bytes, q.payloadList.erase (place start p.1)⟩) ∧
      bytes.Stores start received (Extent.firstGap 0 received) ∧ place start p.1 ∈ q.payloadList := by
  obtain ⟨n, bytes, extracts, kept⟩ := extractTo_rcvNxt unwrapped stores within
  have listed : p ∈ carried messages cut (Extent.firstGap 0 received) := by
    rw [next]
    exact List.mem_cons_self
  have bounds := carried_bounds p listed
  have ending := (List.mem_filter.mp listed).1
  have positive := (endings_bounds nonempty p ending).1
  have covered : Extent.Covers received (p.1 - 1) :=
    Extent.covers_of_lt_firstGap stores.separated (Nat.zero_le _) (by omega)
  have present : q.payloadList[place start p.1]? = some p.2 :=
    (buffered _ _).mpr ⟨p.1, ending, ⟨bounds.1, covered⟩, rfl⟩
  refine ⟨bytes, ?_, kept, StdMap.mem_iff_exists.mpr ⟨_, present⟩⟩
  unfold extractBytesUpTo
  rw [extracts, ok_bind]
  dsimp only
  cases first : q.payloadList.toList.head? with
  | none =>
      rw [StdMap.head?_toList_eq_none _ first] at present
      cases present
  | some entry =>
      obtain ⟨stored, least⟩ := StdMap.head?_toList_eq_some _ first
      obtain ⟨e, ending', ⟨above, -⟩, key⟩ := (buffered _ _).mp stored
      have early : e ≤ p.1 := by
        rcases least _ _ present with same | less
        · exact Nat.le_of_eq (place_ending_inj nonempty unwrapped ending ending' (same.trans key)).symm
        · have places := toNat_place_ending nonempty unwrapped ending'
          rw [key, BitVec.lt_def, places, toNat_place_ending nonempty unwrapped ending] at less
          omega
      have later : p.1 ≤ e := by
        have listed' : (e, entry.2) ∈ carried messages cut (Extent.firstGap 0 received) :=
          List.mem_filter.mpr ⟨ending', by simp only [decide_eq_true_eq]; omega⟩
        have ordered : (carried messages cut (Extent.firstGap 0 received)).Pairwise
            fun p q => p.1 < q.1 := carried_ordered nonempty
        rw [next] at ordered listed'
        rcases List.mem_cons.mp listed' with same | after
        · rw [← same]
        · exact Nat.le_of_lt ((List.pairwise_cons.mp ordered).1 _ after)
      obtain rfl : e = p.1 := Nat.le_antisymm early later
      have message : entry.2 = p.2 := endings_unique nonempty ending' ending
      dsimp only
      rw [key, if_neg (mt (seqGreater_place start (by omega) (by omega)).mp (by omega)), message]
      rfl

end Loop

theorem extractMessages_eq (nonempty : ∀ msg ∈ messages, 0 < msg.bytes)
    (unwrapped : start.toNat + totalBytes messages < 2 ^ 32) {q : TCPMsgBasedRcvQueue}
    {extracted size cut : Nat} (sized : q.payloadList.size = size)
    (stores : q.toTCPVirtualDataRcvQueue.Stores start received extracted)
    (within : ∀ n, Extent.Covers received n → n < totalBytes messages)
    (behind : cut ≤ Extent.firstGap 0 received)
    (near : Extent.firstGap 0 received ≤ cut + 2 ^ 31)
    (buffered : Buffered start messages q.payloadList fun e =>
      cut < e ∧ Extent.Covers received (e - 1)) :
    ∃ q', extractMessages (place start (Extent.firstGap 0 received)) (size + 1) q =
        .ok ((carried messages cut (Extent.firstGap 0 received)).map (·.2), q') ∧
      q'.toTCPVirtualDataRcvQueue.Stores start received (Extent.firstGap 0 received) ∧
      Buffered start messages q'.payloadList fun e =>
        Extent.firstGap 0 received < e ∧ Extent.Covers received (e - 1) := by
  cases next : carried messages cut (Extent.firstGap 0 received) with
  | nil =>
      obtain ⟨bytes, extracts, kept⟩ :=
        extractBytesUpTo_none unwrapped stores within buffered next
      refine ⟨⟨bytes, q.payloadList⟩, ?_, kept, buffered.congr fun p ending => ?_⟩
      · unfold extractMessages
        rw [extracts]
        rfl
      · have outside : ¬ (cut < p.1 ∧ p.1 ≤ Extent.firstGap 0 received) := fun inside => by
          have listed : p ∈ carried messages cut (Extent.firstGap 0 received) :=
            List.mem_filter.mpr ⟨ending, decide_eq_true inside⟩
          rw [next] at listed
          cases listed
        constructor
        · exact fun inside => ⟨by omega, inside.2⟩
        · exact fun inside => ⟨by omega, inside.2⟩
  | cons p rest =>
      obtain ⟨bytes, extracts, kept, present⟩ :=
        extractBytesUpTo_some nonempty unwrapped stores within behind near buffered next
      have listed : p ∈ carried messages cut (Extent.firstGap 0 received) := by
        rw [next]
        exact List.mem_cons_self
      have bounds := carried_bounds p listed
      have ordered : (carried messages cut (Extent.firstGap 0 received)).Pairwise
          fun p q => p.1 < q.1 := carried_ordered nonempty
      have others : carried messages p.1 (Extent.firstGap 0 received) = rest := by
        rw [next] at ordered
        rw [← carried_filter_above (Nat.le_of_lt bounds.1), next, List.filter_cons_of_neg (by simp)]
        refine List.filter_eq_self.mpr fun q later => ?_
        simpa using (List.pairwise_cons.mp ordered).1 q later
      have remaining : Buffered start messages (q.payloadList.erase (place start p.1)) fun e =>
          p.1 < e ∧ Extent.Covers received (e - 1) := by
        refine (buffered.erase nonempty unwrapped (List.mem_filter.mp listed).1).congr fun r ending => ?_
        constructor
        · rintro ⟨⟨above, covered⟩, apart⟩
          refine ⟨?_, covered⟩
          by_contra before
          have inside : r ∈ carried messages cut (Extent.firstGap 0 received) :=
            List.mem_filter.mpr ⟨ending, by simp only [decide_eq_true_eq]; omega⟩
          rw [next] at inside ordered
          rcases List.mem_cons.mp inside with same | later
          · exact apart (congrArg Prod.fst same)
          · exact before ((List.pairwise_cons.mp ordered).1 r later)
        · exact fun inside => ⟨⟨by omega, inside.2⟩, by omega⟩
      obtain ⟨q', done, kept', buffered'⟩ := extractMessages_eq nonempty unwrapped
        (q := ⟨bytes, q.payloadList.erase (place start p.1)⟩) rfl kept within bounds.2 (by omega)
        remaining
      refine ⟨q', ?_, kept', buffered'⟩
      unfold extractMessages
      rw [extracts, ok_bind, ← sized, StdMap.size_erase_of_mem present]
      dsimp only
      rw [done, others]
      rfl
termination_by size
decreasing_by
  rw [← sized, StdMap.size_erase_of_mem present]
  exact Nat.lt_succ_self _

end Messages

end TCPMsgBasedRcvQueue

end IPv6Suite
