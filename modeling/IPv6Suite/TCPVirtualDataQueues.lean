import IPv6Suite.Lib.Exec
import IPv6Suite.Lib.Extents
import IPv6Suite.TCPSegment

namespace IPv6Suite

open Lib SerialNumber

/-- The bytes from `beginSeq` up to `endSeq`. -/
structure TCPVirtualDataSendQueue where
  beginSeq : BitVec 32
  endSeq : BitVec 32
deriving DecidableEq

namespace TCPVirtualDataSendQueue

def create : TCPVirtualDataSendQueue := ⟨0, 0⟩

def init (_ : TCPVirtualDataSendQueue) (startSeq : BitVec 32) : TCPVirtualDataSendQueue :=
  ⟨startSeq, startSeq⟩

def enqueueAppData (q : TCPVirtualDataSendQueue) (msg : CMessage) : TCPVirtualDataSendQueue :=
  { q with endSeq := q.endSeq + BitVec.ofNat 32 msg.bytes }

def bufferEndSeq (q : TCPVirtualDataSendQueue) : BitVec 32 := q.endSeq

def bytesAvailable (q : TCPVirtualDataSendQueue) (fromSeq : BitVec 32) : Nat :=
  if seqLess fromSeq q.bufferEndSeq then (q.bufferEndSeq - fromSeq).toNat else 0

def createSegmentWithBytes (q : TCPVirtualDataSendQueue) (fromSeq : BitVec 32) (numBytes : Nat) :
    Exec TCPSegment := do
  Exec.assert (seqLE q.beginSeq fromSeq ∧ seqLE (fromSeq + BitVec.ofNat 32 numBytes) q.endSeq)
  return { TCPSegment.create with sequenceNo := fromSeq, payloadLength := numBytes }

def discardUpTo (q : TCPVirtualDataSendQueue) (seqNum : BitVec 32) :
    Exec TCPVirtualDataSendQueue := do
  Exec.assert (seqLE q.beginSeq seqNum ∧ seqLE seqNum q.endSeq)
  return { q with beginSeq := seqNum }

end TCPVirtualDataSendQueue

/-- The bytes from `beginSeq` up to `endSeq`. -/
structure Region where
  beginSeq : BitVec 32
  endSeq : BitVec 32
deriving DecidableEq

structure TCPVirtualDataRcvQueue where
  rcvNxt : BitVec 32
  regionList : List Region
deriving DecidableEq

namespace TCPVirtualDataRcvQueue

def init (q : TCPVirtualDataRcvQueue) (startSeq : BitVec 32) : TCPVirtualDataRcvQueue :=
  { q with rcvNxt := startSeq }

/-- The inner loop of `merge`: region `i` takes in the ones after it that it reaches. -/
def mergeFollowing (i : Region) : List Region → List Region
  | [] => [i]
  | j :: rest =>
      if seqGE i.endSeq j.beginSeq then
        mergeFollowing (if seqLess i.endSeq j.endSeq then { i with endSeq := j.endSeq } else i) rest
      else i :: j :: rest

def merge (seg : Region) : List Region → List Region
  | [] => [seg]
  | i :: rest =>
      if seqLess i.endSeq seg.beginSeq then i :: merge seg rest
      else if seqLess seg.endSeq i.beginSeq then seg :: i :: rest
      else
        let i := if seqLess seg.beginSeq i.beginSeq then { i with beginSeq := seg.beginSeq } else i
        if seqLess i.endSeq seg.endSeq then mergeFollowing { i with endSeq := seg.endSeq } rest
        else i :: rest

/-- The new `rcv_nxt` and the queue. There is a region after `merge`. -/
def insertBytesFromSegment (q : TCPVirtualDataRcvQueue) (tcpseg : TCPSegment) :
    BitVec 32 × TCPVirtualDataRcvQueue :=
  let seg : Region :=
    ⟨tcpseg.sequenceNo, tcpseg.sequenceNo + BitVec.ofNat 32 tcpseg.payloadLength⟩
  let regionList := merge seg q.regionList
  let rcvNxt := match regionList with
    | [] => q.rcvNxt
    | first :: _ => if seqGE q.rcvNxt first.beginSeq then first.endSeq else q.rcvNxt
  (rcvNxt, { rcvNxt, regionList })

def extractTo (q : TCPVirtualDataRcvQueue) (seq : BitVec 32) :
    Exec (Nat × TCPVirtualDataRcvQueue) := do
  Exec.assert (seqLE seq q.rcvNxt)
  match q.regionList with
  | [] => return (0, q)
  | i :: rest => do
      Exec.assert (i.beginSeq < i.endSeq)
      if seqLE seq i.beginSeq then return (0, q)
      else if seqLess seq i.endSeq then
        return ((seq - i.beginSeq).toNat, { q with regionList := { i with beginSeq := seq } :: rest })
      else return ((i.endSeq - i.beginSeq).toNat, { q with regionList := rest })

def extractBytesUpTo (q : TCPVirtualDataRcvQueue) (seq : BitVec 32) :
    Exec (Option CMessage × TCPVirtualDataRcvQueue) := do
  let (numBytes, q) ← q.extractTo seq
  return (if numBytes = 0 then none else some ⟨"data", 8 * numBytes⟩, q)

end TCPVirtualDataRcvQueue

/-- The region of an interval of the stream that begins at `start`. -/
def Region.ofExtent (start : BitVec 32) (i : Extent Nat) : Region :=
  ⟨place start i.lo, place start i.hi⟩

namespace Region

@[simp] theorem beginSeq_ofExtent (start : BitVec 32) (i : Extent Nat) :
    (ofExtent start i).beginSeq = place start i.lo := rfl

@[simp] theorem endSeq_ofExtent (start : BitVec 32) (i : Extent Nat) :
    (ofExtent start i).endSeq = place start i.hi := rfl

/-- The byte with the largest sequence number is in the region. -/
def HoldsLast (i : Region) : Prop :=
  (BitVec.allOnes 32 - i.beginSeq).toNat < (i.endSeq - i.beginSeq).toNat

instance : DecidablePred HoldsLast := fun _ => inferInstanceAs (Decidable (_ < _))

/-- The comparison of `extractTo` is not modular. -/
theorem beginSeq_lt_endSeq {start : BitVec 32} {i : Extent Nat} (nonempty : i.lo < i.hi)
    (narrow : i.hi - i.lo < 2 ^ 32) : (ofExtent start i).beginSeq < (ofExtent start i).endSeq ↔
      ¬ (ofExtent start i).HoldsLast := by
  have distance := toNat_sub_place start (Nat.le_of_lt nonempty) narrow
  have ends : place start i.hi = place start i.lo + BitVec.ofNat 32 (i.hi - i.lo) := by
    rw [place_add, Nat.add_sub_cancel' (Nat.le_of_lt nonempty)]
  unfold HoldsLast ofExtent
  dsimp only
  rw [distance, ends, BitVec.lt_def, BitVec.toNat_add, BitVec.toNat_ofNat, Nat.mod_eq_of_lt narrow]
  have bound := (place start i.lo).isLt
  have last : (BitVec.allOnes 32 - place start i.lo).toNat = 2 ^ 32 - 1 - (place start i.lo).toNat := by
    rw [BitVec.toNat_sub, BitVec.toNat_allOnes]
    omega
  rw [last]
  omega

end Region

namespace TCPVirtualDataRcvQueue

variable {start : BitVec 32} {b : Nat}

/-- Intervals whose bounds are less than half of the number space above `b`. -/
def Window (b : Nat) (l : List (Extent Nat)) : Prop :=
  ∀ i ∈ l, b ≤ i.lo ∧ i.lo < b + 2 ^ 31 ∧ b ≤ i.hi ∧ i.hi < b + 2 ^ 31

variable {i : Extent Nat} {rest : List (Extent Nat)}

theorem window_cons (window : Window b (i :: rest)) :
    (b ≤ i.lo ∧ i.lo < b + 2 ^ 31 ∧ b ≤ i.hi ∧ i.hi < b + 2 ^ 31) ∧ Window b rest :=
  ⟨window i List.mem_cons_self, fun j later => window j (List.mem_cons_of_mem i later)⟩

theorem mergeFollowing_ofExtent (above : b ≤ i.hi) (below : i.hi < b + 2 ^ 31) (window : Window b rest) :
    mergeFollowing (.ofExtent start i) (rest.map (.ofExtent start)) =
      (Extent.absorb i rest).map (.ofExtent start) := by
  induction rest generalizing i with
  | nil => rfl
  | cons j rest ih =>
      obtain ⟨bounds, others⟩ := window_cons window
      rw [List.map_cons]
      unfold mergeFollowing Extent.absorb
      have reaches : seqGE (Region.ofExtent start i).endSeq (Region.ofExtent start j).beginSeq ↔
          j.lo ≤ i.hi := seqGE_place start (by omega) (by omega)
      have longer : seqLess (place start i.hi) (place start j.hi) ↔ i.hi < j.hi :=
        seqLess_place start (by omega) (by omega)
      have grown : (if seqLess (Region.ofExtent start i).endSeq (Region.ofExtent start j).endSeq
          then ⟨(Region.ofExtent start i).beginSeq, (Region.ofExtent start j).endSeq⟩
          else .ofExtent start i) = Region.ofExtent start ⟨i.lo, max i.hi j.hi⟩ := by
        unfold Region.ofExtent
        dsimp only
        by_cases less : i.hi < j.hi
        · rw [if_pos (longer.mpr less), Nat.max_eq_right (Nat.le_of_lt less)]
        · rw [if_neg (mt longer.mp less), Nat.max_eq_left (Nat.le_of_not_lt less)]
      by_cases touching : j.lo ≤ i.hi
      · rw [if_pos (reaches.mpr touching), if_pos touching, grown]
        exact ih (by dsimp only; omega) (by dsimp only; omega) others
      · rw [if_neg (mt reaches.mp touching), if_neg touching]
        rfl

theorem merge_touching {seg i : Extent Nat} (nonempty : seg.lo < seg.hi) (filled : i.lo < i.hi) (low : b ≤ seg.lo)
    (high : seg.hi < b + 2 ^ 31) (bounds : b ≤ i.hi ∧ i.hi < b + 2 ^ 31)
    (near : seg.hi ≤ i.lo + 2 ^ 31) (touching : seg.lo ≤ i.hi) (window : Window b rest) :
    merge (.ofExtent start seg) ((i :: rest).map (.ofExtent start)) =
      (Extent.insert seg (i :: rest)).map (.ofExtent start) := by
  have skips : seqLess (Region.ofExtent start i).endSeq (Region.ofExtent start seg).beginSeq ↔
      i.hi < seg.lo := seqLess_place start (by omega) (by omega)
  have before : seqLess (Region.ofExtent start seg).endSeq (Region.ofExtent start i).beginSeq ↔
      seg.hi < i.lo := seqLess_place start (by omega) near
  have lower : seqLess (place start seg.lo) (place start i.lo) ↔ seg.lo < i.lo :=
    seqLess_place start (by omega) (by omega)
  have longer : seqLess (place start i.hi) (place start seg.hi) ↔ i.hi < seg.hi :=
    seqLess_place start (by omega) (by omega)
  have grown : (if seqLess (Region.ofExtent start seg).beginSeq (Region.ofExtent start i).beginSeq
      then ⟨(Region.ofExtent start seg).beginSeq, (Region.ofExtent start i).endSeq⟩
      else .ofExtent start i) = Region.ofExtent start ⟨min seg.lo i.lo, i.hi⟩ := by
    unfold Region.ofExtent
    dsimp only
    by_cases less : seg.lo < i.lo
    · rw [if_pos (lower.mpr less), Nat.min_eq_left (Nat.le_of_lt less)]
    · rw [if_neg (mt lower.mp less), Nat.min_eq_right (Nat.le_of_not_lt less)]
  rw [List.map_cons]
  unfold merge Extent.insert
  rw [grown, if_neg (mt skips.mp (Nat.not_lt_of_le touching)), if_neg (Nat.not_lt_of_le touching)]
  by_cases after : seg.hi < i.lo
  · rw [if_pos (before.mpr after), if_pos after]
    rfl
  · rw [if_neg (mt before.mp after), if_neg after]
    by_cases less : i.hi < seg.hi
    · have absorbed : mergeFollowing (.ofExtent start ⟨min seg.lo i.lo, seg.hi⟩)
          (rest.map (.ofExtent start)) = _ :=
        mergeFollowing_ofExtent (by dsimp only; omega) high window
      rw [if_pos less, ← absorbed]
      exact if_pos (longer.mpr less)
    · rw [if_neg less]
      exact if_neg (mt longer.mp less)

theorem merge_skip {seg i : Extent Nat} (low : b ≤ seg.lo)
    (high : seg.lo < b + 2 ^ 31) (bounds : b ≤ i.hi ∧ i.hi < b + 2 ^ 31) (before : i.hi < seg.lo)
    (merged : merge (.ofExtent start seg) (rest.map (.ofExtent start)) =
      (Extent.insert seg rest).map (.ofExtent start)) :
    merge (.ofExtent start seg) ((i :: rest).map (.ofExtent start)) =
      (Extent.insert seg (i :: rest)).map (.ofExtent start) := by
  have skips : seqLess (Region.ofExtent start i).endSeq (Region.ofExtent start seg).beginSeq ↔
      i.hi < seg.lo := seqLess_place start (by omega) (by omega)
  rw [List.map_cons]
  unfold merge Extent.insert
  rw [if_pos before, List.map_cons, ← merged]
  exact if_pos (skips.mpr before)

theorem merge_window {seg : Extent Nat} {l : List (Extent Nat)} (nonempty : seg.lo < seg.hi)
    (filled : ∀ i ∈ l, i.lo < i.hi) (low : b ≤ seg.lo) (high : seg.hi < b + 2 ^ 31) (window : Window b l) :
    merge (.ofExtent start seg) (l.map (.ofExtent start)) = (Extent.insert seg l).map (.ofExtent start) := by
  induction l with
  | nil => rfl
  | cons i rest ih =>
      obtain ⟨bounds, others⟩ := window_cons window
      by_cases before : i.hi < seg.lo
      · refine merge_skip low (by omega) bounds.2.2 before ?_
        exact ih (fun j later => filled j (List.mem_cons_of_mem i later)) others
      · exact merge_touching nonempty (filled i List.mem_cons_self) low high bounds.2.2 (by omega)
          (Nat.le_of_not_lt before) others

/-- Only the first region may begin below the window. -/
theorem merge_ofExtent {seg i : Extent Nat}
    (nonempty : seg.lo < seg.hi) (separated : Extent.Separated (i :: rest)) (low : b ≤ seg.lo)
    (high : seg.hi < b + 2 ^ 31) (bounds : b ≤ i.hi ∧ i.hi < b + 2 ^ 31)
    (near : seg.lo ≤ i.hi → seg.hi ≤ i.lo + 2 ^ 31) (window : Window b rest) :
    merge (.ofExtent start seg) ((i :: rest).map (.ofExtent start)) =
      (Extent.insert seg (i :: rest)).map (.ofExtent start) := by
  obtain ⟨filled, -, others⟩ := Extent.separated_cons.mp separated
  by_cases before : i.hi < seg.lo
  · exact merge_skip low (by omega) bounds before
      (merge_window nonempty others.nonempty low high window)
  · have touching := Nat.le_of_not_lt before
    exact merge_touching nonempty filled low high bounds (near touching) touching window

/-- The queue of a stream that begins at `start`, of which `received` has arrived and the
first `extracted` bytes have been handed up. -/
structure Stores (start : BitVec 32) (received : List (Extent Nat)) (extracted : Nat)
    (q : TCPVirtualDataRcvQueue) : Prop where
  separated : Extent.Separated received
  regions : ∃ rs, q.regionList = rs.map (.ofExtent start) ∧ Extent.Separated rs ∧
    ∀ n, Extent.Covers rs n ↔ Extent.Covers received n ∧ extracted ≤ n
  rcvNxt : q.rcvNxt = place start (Extent.firstGap 0 received)
  taken : extracted ≤ Extent.firstGap 0 received
  near : ∀ n, Extent.Covers received n → n + 1 < Extent.firstGap 0 received + 2 ^ 31
  contiguous : Extent.firstGap 0 received ≤ extracted + 2 ^ 31

variable {received : List (Extent Nat)} {extracted : Nat} {q q' : TCPVirtualDataRcvQueue}

theorem stores_init (start : BitVec 32) : Stores start [] 0 ⟨start, []⟩ where
  separated := Extent.separated_nil
  regions := ⟨[], rfl, Extent.separated_nil, fun _ =>
    ⟨fun covered => absurd covered Extent.covers_nil,
      fun covered => absurd covered.1 Extent.covers_nil⟩⟩
  rcvNxt := (place_zero start).symm
  taken := Nat.le_refl 0
  near := fun _ covered => absurd covered Extent.covers_nil
  contiguous := Nat.zero_le _

theorem first_region (arrived : Extent.Separated received) (taken : extracted ≤ Extent.firstGap 0 received)
    (separated : Extent.Separated (i :: rest))
    (covers : ∀ n, Extent.Covers (i :: rest) n ↔ Extent.Covers received n ∧ extracted ≤ n) :
    extracted < Extent.firstGap 0 received ∧ i = ⟨extracted, Extent.firstGap 0 received⟩ ∨
      extracted = Extent.firstGap 0 received ∧ Extent.firstGap 0 received < i.lo := by
  have missing := Extent.not_covers_firstGap (a := 0) arrived
  rcases Nat.lt_or_eq_of_le taken with pending | none
  · refine Or.inl ⟨pending, Extent.first_eq separated (fun c covered => ((covers c).mp covered).2)
      (fun c above before => (covers c).mpr ⟨?_, above⟩) pending fun covered =>
        missing ((covers _).mp covered).1⟩
    exact Extent.covers_of_lt_firstGap arrived (Nat.zero_le c) before
  · refine Or.inr ⟨none, ?_⟩
    have lower := (covers i.lo).mp (separated.covers_lo List.mem_cons_self)
    rcases Nat.lt_or_eq_of_le (none ▸ lower.2) with above | same
    · exact above
    · exact absurd (same ▸ lower.1) missing

theorem Stores.window (stores : Stores start received extracted q) (separated : Extent.Separated (i :: rest))
    (covers : ∀ n, Extent.Covers (i :: rest) n ↔ Extent.Covers received n ∧ extracted ≤ n) :
    (Extent.firstGap 0 received ≤ i.hi ∧ i.hi < Extent.firstGap 0 received + 2 ^ 31) ∧
      Window (Extent.firstGap 0 received) rest := by
  have ⟨filled, beyond, others⟩ := Extent.separated_cons.mp separated
  have last (j : Extent Nat) (inside : j ∈ i :: rest) :
      j.hi < Extent.firstGap 0 received + 2 ^ 31 := by
    have nonempty := separated.nonempty j inside
    have covered : Extent.Covers (i :: rest) (j.hi - 1) :=
      ⟨j, inside, by unfold Extent.Contains; omega⟩
    have bound := stores.near _ ((covers _).mp covered).1
    omega
  have reached : Extent.firstGap 0 received ≤ i.hi := by
    rcases first_region stores.separated stores.taken separated covers with ⟨-, same⟩ | ⟨-, above⟩
    · rw [same]
    · omega
  refine ⟨⟨reached, last i List.mem_cons_self⟩, fun j later => ?_⟩
  have nonempty := others.nonempty j later
  have after := beyond j later
  have bound := last j (List.mem_cons_of_mem i later)
  omega

theorem le_firstGap_insert (arrived : Extent.Separated received)
    (nonempty : i.lo < i.hi) (atGap : i.lo ≤ Extent.firstGap 0 received) :
    i.hi ≤ Extent.firstGap 0 (Extent.insert i received) := by
  have further := Extent.firstGap_insert_le (a := 0) nonempty arrived
  have missing := Extent.not_covers_firstGap (a := 0) (Extent.separated_insert nonempty arrived)
  by_contra inside
  refine missing ((Extent.covers_insert arrived).mpr (Or.inl ⟨?_, ?_⟩))
  · exact Nat.le_trans atGap further
  · exact Nat.lt_of_not_le inside

theorem Stores.insertMerged (stores : Stores start received extracted q) {tcpseg : TCPSegment}
    (nonempty : i.lo < i.hi) (sequenceNo : tcpseg.sequenceNo = place start i.lo)
    (length : i.lo + tcpseg.payloadLength = i.hi) (fresh : extracted ≤ i.lo) (merged : ∀ rs, Extent.Separated rs →
      (∀ n, Extent.Covers rs n ↔ Extent.Covers received n ∧ extracted ≤ n) →
      merge (.ofExtent start i) (rs.map (.ofExtent start)) = (Extent.insert i rs).map (.ofExtent start))
    (near : i.hi < Extent.firstGap 0 received + 2 ^ 31)
    (contiguous : Extent.firstGap 0 (Extent.insert i received) ≤ extracted + 2 ^ 31) :
    Stores start (Extent.insert i received) extracted (q.insertBytesFromSegment tcpseg).2 := by
  obtain ⟨rs, list, separated, covers⟩ := stores.regions
  have arrived := Extent.separated_insert nonempty stores.separated
  have further := Extent.firstGap_insert_le (a := 0) nonempty stores.separated
  have taken := stores.taken
  have region : (⟨tcpseg.sequenceNo, tcpseg.sequenceNo + BitVec.ofNat 32 tcpseg.payloadLength⟩ :
      Region) = .ofExtent start i := by
    rw [sequenceNo, place_add, length]
    rfl
  have covers' (n : Nat) : Extent.Covers (Extent.insert i rs) n ↔
      Extent.Covers (Extent.insert i received) n ∧ extracted ≤ n := by
    rw [Extent.covers_insert separated, Extent.covers_insert stores.separated, covers]
    constructor
    · rintro (contains | ⟨old, above⟩)
      · exact ⟨Or.inl contains, Nat.le_trans fresh contains.1⟩
      · exact ⟨Or.inr old, above⟩
    · rintro ⟨contains | old, above⟩
      · exact Or.inl contains
      · exact Or.inr ⟨old, above⟩
  have near' (n : Nat) (covered : Extent.Covers (Extent.insert i received) n) :
      n + 1 < Extent.firstGap 0 (Extent.insert i received) + 2 ^ 31 := by
    rcases (Extent.covers_insert stores.separated).mp covered with contains | old
    · have high : n < i.hi := contains.2
      omega
    · have bound := stores.near n old
      omega
  unfold TCPVirtualDataRcvQueue.insertBytesFromSegment
  rw [region]
  dsimp only
  rw [list, merged rs separated covers]
  refine ⟨arrived, ⟨_, rfl, Extent.separated_insert nonempty separated, covers'⟩, ?_,
    Nat.le_trans taken further, near', contiguous⟩
  dsimp only
  cases regions : Extent.insert i rs with
  | nil =>
      have covered : Extent.Covers (Extent.insert i rs) i.lo :=
        (Extent.covers_insert separated).mpr (Or.inl ⟨Nat.le_refl _, nonempty⟩)
      rw [regions] at covered
      exact absurd covered Extent.covers_nil
  | cons j rest =>
      have separated' := Extent.separated_insert nonempty separated
      rw [regions] at separated' covers'
      rw [List.map_cons]
      dsimp only [Region.ofExtent]
      rw [stores.rcvNxt]
      rcases first_region arrived (Nat.le_trans taken further) separated' covers' with
        ⟨pending, same⟩ | ⟨none, above⟩
      · rw [same]
        dsimp only
        by_cases moved : Extent.firstGap 0 received < Extent.firstGap 0 (Extent.insert i received)
        · exact if_pos ((seqGE_place start (by omega) (by omega)).mpr taken)
        · rw [Nat.le_antisymm (Nat.le_of_not_lt moved) further]
          exact ite_self _
      · have bound := near' j.lo ((covers' j.lo).mp (separated'.covers_lo List.mem_cons_self)).1
        have stays : Extent.firstGap 0 received =
            Extent.firstGap 0 (Extent.insert i received) := by omega
        rw [← stays] at above bound ⊢
        refine if_neg (mt (seqGE_place start ?_ ?_).mp (Nat.not_le_of_lt above))
        · omega
        · omega

theorem Stores.insertBytesFromSegment (stores : Stores start received extracted q)
    {tcpseg : TCPSegment} (nonempty : i.lo < i.hi)
    (sequenceNo : tcpseg.sequenceNo = place start i.lo) (length : i.lo + tcpseg.payloadLength = i.hi)
    (after : Extent.firstGap 0 received ≤ i.lo) (near : i.hi < Extent.firstGap 0 received + 2 ^ 31)
    (contiguous : Extent.firstGap 0 (Extent.insert i received) ≤ extracted + 2 ^ 31) :
    Stores start (Extent.insert i received) extracted (q.insertBytesFromSegment tcpseg).2 := by
  have taken := stores.taken
  refine stores.insertMerged nonempty sequenceNo length (Nat.le_trans taken after)
    (fun rs separated covers => ?_) near contiguous
  cases rs with
  | nil => rfl
  | cons j rest =>
      obtain ⟨bounds, window⟩ := stores.window separated covers
      refine merge_ofExtent nonempty separated after near bounds (fun touching => ?_) window
      rcases first_region stores.separated taken separated covers with ⟨-, same⟩ | ⟨-, above⟩
      · rw [same] at touching ⊢
        exact Nat.le_trans (le_firstGap_insert stores.separated nonempty touching) contiguous
      · omega

/-- Extraction up to `rcv_nxt` takes all bytes before the gap, if the first region does not
hold the byte with the largest number. -/
theorem Stores.extractTo (stores : Stores start received extracted q) :
    if ∃ i ∈ q.regionList.head?, i.HoldsLast then
      q.extractTo q.rcvNxt = .error .assertFailed
    else ∃ q', q.extractTo q.rcvNxt = .ok (Extent.firstGap 0 received - extracted, q') ∧
      Stores start received (Extent.firstGap 0 received) q' ∧ q'.rcvNxt = q.rcvNxt := by
  obtain ⟨rs, list, separated, covers⟩ := stores.regions
  have taken := stores.taken
  have contiguous := stores.contiguous
  have current : seqLE q.rcvNxt q.rcvNxt := by
    unfold seqLE
    rw [BitVec.sub_self]
    decide
  unfold TCPVirtualDataRcvQueue.extractTo
  rw [assert_pos current, ok_bind]
  cases rs with
  | nil =>
      rw [List.map_nil] at list
      have none : Extent.firstGap 0 received = extracted := by
        by_contra apart
        have inside := Extent.covers_of_lt_firstGap (b := extracted) stores.separated (Nat.zero_le _)
          (by omega)
        exact absurd ((covers extracted).mpr ⟨inside, Nat.le_refl _⟩) Extent.covers_nil
      rw [if_neg (by simp [list]), list]
      refine ⟨q, ?_, ?_, rfl⟩
      · rw [none, Nat.sub_self]
        rfl
      · rw [none]
        exact stores
  | cons i rest =>
      rw [List.map_cons] at list
      have ⟨filled, beyond, others⟩ := Extent.separated_cons.mp separated
      have bounds := (stores.window separated covers).1
      have first := first_region stores.separated taken separated covers
      have narrow : i.hi - i.lo < 2 ^ 32 := by
        rcases first with ⟨-, same⟩ | ⟨-, above⟩
        · rw [same]
          dsimp only
          omega
        · omega
      have plain : (Region.ofExtent start i).beginSeq < (Region.ofExtent start i).endSeq ↔ _ :=
        Region.beginSeq_lt_endSeq filled narrow
      rw [list, List.head?_cons]
      dsimp only
      by_cases last : (Region.ofExtent start i).HoldsLast
      · rw [if_pos ⟨_, rfl, last⟩, assert_neg (mt plain.mp (not_not_intro last))]
        rfl
      · rw [if_neg (by simpa using last), assert_pos (plain.mpr last), ok_bind]
        simp only [Region.beginSeq_ofExtent, Region.endSeq_ofExtent, stores.rcvNxt]
        rcases first with ⟨pending, same⟩ | ⟨none, above⟩
        · simp only [same] at beyond covers ⊢
          have after : ¬ seqLE (place start (Extent.firstGap 0 received)) (place start extracted) :=
            mt (seqLE_place start (by omega) (by omega)).mp (Nat.not_le_of_lt pending)
          have whole : ¬ seqLess (place start (Extent.firstGap 0 received))
              (place start (Extent.firstGap 0 received)) := fun less => less.1 rfl
          rw [if_neg after, if_neg whole, toNat_sub_place start taken (by omega)]
          refine ⟨_, rfl, ⟨stores.separated, ⟨rest, rfl, others, fun n => ?_⟩, rfl,
            Nat.le_refl _, stores.near, Nat.le_add_right _ _⟩, rfl⟩
          have covered := covers n
          rw [Extent.covers_cons] at covered
          constructor
          · rintro ⟨j, later, contains⟩
            have high : j.lo ≤ n := contains.1
            have low := beyond j later
            exact ⟨(covered.mp (Or.inr ⟨j, later, contains⟩)).1, by omega⟩
          · rintro ⟨old, above⟩
            rcases covered.mpr ⟨old, by omega⟩ with contains | later
            · exact absurd contains.2 (Nat.not_lt_of_le above)
            · exact later
        · have low := (covers i.lo).mp (separated.covers_lo List.mem_cons_self)
          have bound := stores.near i.lo low.1
          have before : seqLE (place start (Extent.firstGap 0 received)) (place start i.lo) :=
            (seqLE_place start (by omega) (by omega)).mpr (Nat.le_of_lt above)
          rw [if_pos before, ← none, Nat.sub_self]
          exact ⟨q, rfl, stores, none.symm ▸ stores.rcvNxt⟩

end TCPVirtualDataRcvQueue

end IPv6Suite
