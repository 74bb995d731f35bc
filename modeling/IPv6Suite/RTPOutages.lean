import IPv6Suite.RTPSequence

namespace IPv6Suite

open Lib

/-- The module with the numbers of the packets that arrived from one source, and of those that `update_seq` refused,
the last one first -/
structure RTPOutages where
  rtp : RTP Unit
  arrived : List Nat
  refused : List Nat

namespace RTPOutages

open RTPHistory (Event)

def start (own : BitVec 32) (raw : RTPMemberEntry) : RTPOutages := ⟨RTP.start own raw (), [], []⟩

/-- Whether `processRTP` comes to `processRTPData` with the packet -/
def passes (source : BitVec 32) (h : RTPOutages) : Event → Bool
  | .packet n _ raw timestamp payloadLength contextPointer =>
      match h.rtp.updateMember RTP.hooks raw ⟨source, BitVec.ofNat 16 n, timestamp, payloadLength, contextPointer⟩ with
      | .ok (_, _, _, valid) => valid
      | .error _ => false
  | .other _ => false

def step (source : BitVec 32) (h : RTPOutages) (e : Event) : Exec RTPOutages :=
  (h.rtp.step RTP.hooks (e.rtpEvent source)).map fun rtp =>
    match e with
    | .packet n .. => ⟨rtp, n :: h.arrived, if h.passes source e then h.refused else n :: h.refused⟩
    | .other _ => if e.leaves source then ⟨rtp, [], []⟩ else ⟨rtp, h.arrived, h.refused⟩

def InOrder (source : BitVec 32) (h : RTPOutages) : Event → Prop
  | .packet n .. => ∀ last ∈ h.arrived.head?, last < n
  | .other (.rtp _ _ rtpData) => rtpData.ssrc ≠ source
  | .other _ => True

/-- The packets that arrive right behind an outage, the last one first -/
def behindOutages : List Nat → List Nat
  | n :: last :: earlier =>
      if n = last + 1 then behindOutages (last :: earlier) else n :: behindOutages (last :: earlier)
  | _ => []

/-- The packet that other numbers are compared with, and the last one that is far from it -/
structure Marks where
  near : Nat
  far : Option Nat

namespace Marks

/-- A packet is 3000 to 65436 numbers behind, modulo 65536. -/
def Jumps (m : Marks) (n : Nat) : Prop :=
  MAX_DROPOUT ≤ (n - m.near) % RTP_SEQ_MOD ∧ (n - m.near) % RTP_SEQ_MOD ≤ RTP_SEQ_MOD - MAX_MISORDER
deriving Decidable

def next (m : Marks) (n : Nat) : Marks :=
  if (n - m.near) % RTP_SEQ_MOD < MAX_DROPOUT then { m with near := n }
  else if m.Jumps n then { m with far := some n }
  else m

end Marks

def marks : List Nat → Option Marks
  | [] => none
  | n :: earlier => some ((marks earlier).elim ⟨n, none⟩ (·.next n))

/-- A packet that jumps does not have the number, modulo 65536, behind that of the last packet that jumped. -/
def Steady (h : RTPOutages) : Event → Prop
  | .packet n .. => ∀ m ∈ marks h.arrived, m.Jumps n → ∀ far ∈ m.far, (n - far) % RTP_SEQ_MOD ≠ 1
  | .other _ => True

instance (source : BitVec 32) (h : RTPOutages) : (e : Event) → Decidable (h.InOrder source e)
  | .packet n .. => inferInstanceAs (Decidable (∀ last ∈ h.arrived.head?, last < n))
  | .other (.rtp ..) => inferInstanceAs (Decidable (_ ≠ _))
  | .other (.rtcp ..) | .other (.rtcpTimeout ..) | .other (.rtpTimeout ..) => isTrue trivial

instance (h : RTPOutages) : (e : Event) → Decidable (h.Steady e)
  | .packet n .. => inferInstanceAs (Decidable (∀ m ∈ marks h.arrived, m.Jumps n → ∀ far ∈ m.far, _ ≠ _))
  | .other _ => isTrue trivial

/-- Each packet that arrived of the source, apart from the first one, is counted when it is passed on, and of those
behind an outage at most the first one is not. -/
structure Delivered (source : BitVec 32) (h : RTPOutages) : Prop where
  refused : h.refused.Sublist (behindOutages h.arrived)
  counted : ∀ rme : RTPMemberEntry, h.rtp.memberSet[source]? = some rme → h.arrived ≠ [] →
    rme.received + 1 + BitVec.ofNat 32 h.refused.length = BitVec.ofNat 32 h.arrived.length

/-- What the entry of the source says of the packets that are compared -/
def gauge (rme : RTPMemberEntry) : Option (BitVec 16 × BitVec 32 × BitVec 32) :=
  if rme.sender then some (rme.maxSeq, rme.badSeq, rme.received) else none

def Marks.badSeq (m : Marks) : BitVec 32 :=
  m.far.elim (BitVec.ofNat 32 (RTP_SEQ_MOD + 1)) fun far => (BitVec.ofNat 16 far + 1).setWidth 32

/-- The entry of the source by the packets -/
def expected (arrived refused : List Nat) : Option (BitVec 16 × BitVec 32 × BitVec 32) :=
  (marks arrived).map fun m =>
    (BitVec.ofNat 16 m.near, m.badSeq, BitVec.ofNat 32 (arrived.length - 1 - refused.length))

variable {own source : BitVec 32} {h : RTPOutages} {m : Marks} {n last : Nat} {arrived refused earlier : List Nat}

theorem gauge_silent (rme : RTPMemberEntry) (silent : rme.sender = false) : gauge rme = none := by
  rw [gauge, silent]
  rfl

theorem udelta_eq (le : m.near ≤ n) :
    (BitVec.ofNat 16 n - BitVec.ofNat 16 m.near).toNat = (n - m.near) % RTP_SEQ_MOD := by
  rw [BitVec.toNat_sub, BitVec.toNat_ofNat, BitVec.toNat_ofNat]
  unfold RTP_SEQ_MOD
  omega

theorem badSeq_eq_iff (before : ∀ far ∈ m.far, far < n) :
    (BitVec.ofNat 16 n).setWidth 32 = m.badSeq ↔ ∃ far ∈ m.far, (n - far) % RTP_SEQ_MOD = 1 := by
  unfold Marks.badSeq RTP_SEQ_MOD
  rw [← BitVec.toNat_inj, BitVec.toNat_setWidth, BitVec.toNat_ofNat]
  cases seen : m.far with
  | none =>
      rw [Option.elim_none, BitVec.toNat_ofNat]
      simp only [Option.not_mem_none, false_and, exists_false, iff_false]
      omega
  | some far =>
      have lt := before far seen
      have one : (1 : BitVec 16).toNat = 1 := rfl
      rw [Option.elim_some, BitVec.toNat_setWidth, BitVec.toNat_add, BitVec.toNat_ofNat, one]
      simp only [Option.mem_some_iff, exists_eq_left']
      omega

theorem length_behindOutages : (behindOutages (n :: earlier)).length ≤ earlier.length := by
  induction earlier generalizing n with
  | nil => exact Nat.le_refl 0
  | cons last earlier ih =>
      unfold behindOutages
      split
      · exact Nat.le_succ_of_le ih
      · exact Nat.succ_le_succ ih

/-- The packets that are compared have arrived, and the last one was near, was far, or is just before the near one. -/
structure Marked (arrived : List Nat) (m : Marks) : Prop where
  near : m.near ∈ arrived
  far : ∀ far ∈ m.far, far ∈ arrived
  last : ∀ last ∈ arrived.head?,
    m.near = last ∨ m.far = some last ∨ RTP_SEQ_MOD - MAX_MISORDER < (last - m.near) % RTP_SEQ_MOD

theorem Marked.next (marked : Marked arrived m) : Marked (n :: arrived) (m.next n) := by
  unfold Marks.next
  split
  · exact ⟨List.mem_cons_self, fun far seen => List.mem_cons_of_mem _ (marked.far far seen), fun last seen =>
      Or.inl (Option.some.inj seen)⟩
  · rename_i beyond
    split
    · exact ⟨List.mem_cons_of_mem _ marked.near, fun far seen => by cases seen; exact List.mem_cons_self,
        fun last seen => Or.inr (Or.inl seen)⟩
    · rename_i close
      refine ⟨List.mem_cons_of_mem _ marked.near, fun far seen => List.mem_cons_of_mem _ (marked.far far seen),
        fun last seen => Or.inr (Or.inr ?_)⟩
      cases seen
      unfold Marks.Jumps at close
      omega

theorem marked (found : marks arrived = some m) : Marked arrived m := by
  induction arrived generalizing m with
  | nil => cases found
  | cons n earlier ih =>
      cases found
      cases before : marks earlier with
      | none =>
          exact ⟨List.mem_cons_self, fun _ seen => (nomatch seen), fun last seen => Or.inl (Option.some.inj seen)⟩
      | some m => exact (ih before).next

/-- Behind the last packet there is none that jumps, unless that one did. -/
theorem not_jumps_succ (marked : Marked (last :: earlier) m) (later : m.near ≤ last)
    (fresh : ∀ far ∈ m.far, (last + 1 - far) % RTP_SEQ_MOD ≠ 1) : ¬ m.Jumps (last + 1) := by
  rintro ⟨beyond, within⟩
  unfold MAX_DROPOUT at beyond
  rcases marked.last last rfl with same | far | close
  · rw [same, Nat.add_sub_cancel_left] at beyond
    exact absurd beyond (by decide)
  · have one := fresh last far
    rw [Nat.add_sub_cancel_left] at one
    exact one rfl
  · unfold RTP_SEQ_MOD MAX_MISORDER at *
    omega

section Packet

variable {now timestamp : SimTime} {raw rme : RTPMemberEntry} {payloadLength : BitVec 32} {contextPointer : Option Nat}

theorem step_of_update {valid : Bool} (updated : h.rtp.updateMember RTP.hooks raw
      ⟨source, BitVec.ofNat 16 n, timestamp, payloadLength, contextPointer⟩ =
        .ok ((), rme, ⟨source, BitVec.ofNat 16 n, timestamp, payloadLength, contextPointer⟩, valid)) :
    ∃ rtp, h.step source (.packet n now raw timestamp payloadLength contextPointer) =
        .ok ⟨rtp, n :: h.arrived, if valid then h.refused else n :: h.refused⟩ ∧
      rtp.ssrc = h.rtp.ssrc ∧ rtp.memberSet.observed gauge source = gauge rme := by
  unfold step passes
  simp only [Event.rtpEvent, RTP.step, RTP.processRTP, updated]
  cases valid with
  | true => exact ⟨_, rfl, rfl, MemberSet.observed_insert_self⟩
  | false => exact ⟨_, rfl, rfl, MemberSet.observed_insert_self⟩

theorem step_of_fault {fault : Fault} (updated : h.rtp.updateMember RTP.hooks raw
      ⟨source, BitVec.ofNat 16 n, timestamp, payloadLength, contextPointer⟩ = .error fault) :
    h.step source (.packet n now raw timestamp payloadLength contextPointer) = .error fault := by
  unfold step
  simp only [Event.rtpEvent, RTP.step, RTP.processRTP, updated]
  rfl

theorem first_step (now : SimTime) (seen : h.rtp.memberSet.observed gauge source = none) :
    ∃ rtp, h.step source (.packet n now raw timestamp payloadLength contextPointer) = .ok ⟨rtp, n :: h.arrived, h.refused⟩ ∧
      rtp.ssrc = h.rtp.ssrc ∧ rtp.memberSet.observed gauge source = expected [n] [] := by
  rw [← MemberSet.observed_memberEntry gauge_silent h.rtp raw] at seen
  have silent : (h.rtp.memberEntry raw source).sender = false := by
    unfold gauge at seen
    cases sender : (h.rtp.memberEntry raw source).sender with
    | false => rfl
    | true =>
        rw [sender] at seen
        cases seen
  have updated : h.rtp.updateMember RTP.hooks raw
      ⟨source, BitVec.ofNat 16 n, timestamp, payloadLength, contextPointer⟩ =
        .ok ((), init_seq { h.rtp.memberEntry raw source with sender := true } (BitVec.ofNat 16 n),
          ⟨source, BitVec.ofNat 16 n, timestamp, payloadLength, contextPointer⟩, true) := by
    unfold RTP.updateMember
    exact if_neg (by rw [silent]; decide)
  exact step_of_update updated

variable (found : marks h.arrived = some m) (before : ∀ k ∈ h.arrived, k < n)
  (seen : h.rtp.memberSet.observed gauge source = expected h.arrived h.refused)

include found seen

theorem entry_seen (raw : RTPMemberEntry) : (h.rtp.memberEntry raw source).sender = true ∧
    (h.rtp.memberEntry raw source).maxSeq = BitVec.ofNat 16 m.near ∧
    (h.rtp.memberEntry raw source).badSeq = m.badSeq ∧
    (h.rtp.memberEntry raw source).received = BitVec.ofNat 32 (h.arrived.length - 1 - h.refused.length) := by
  rw [← MemberSet.observed_memberEntry gauge_silent h.rtp raw, expected, found, gauge] at seen
  cases sender : (h.rtp.memberEntry raw source).sender with
  | false =>
      rw [sender] at seen
      cases seen
  | true =>
      rw [sender] at seen
      have parts := Option.some.inj seen
      exact ⟨rfl, congrArg (·.1) parts, congrArg (·.2.1) parts, congrArg (·.2.2) parts⟩

include before

theorem updateMember_eq : h.rtp.updateMember RTP.hooks raw
      ⟨source, BitVec.ofNat 16 n, timestamp, payloadLength, contextPointer⟩ =
    let s := h.rtp.memberEntry raw source
    let p : RTPPacket := ⟨source, BitVec.ofNat 16 n, timestamp, payloadLength, contextPointer⟩
    if (n - m.near) % RTP_SEQ_MOD < MAX_DROPOUT then
      .ok ((), { s with
        maxSeq := BitVec.ofNat 16 n
        cycles := if BitVec.ofNat 16 n < s.maxSeq then s.cycles + BitVec.ofNat 32 RTP_SEQ_MOD else s.cycles
        received := s.received + 1 }, p, true)
    else if m.Jumps n then
      if ∃ far ∈ m.far, (n - far) % RTP_SEQ_MOD = 1 then .error .assertFailed
      else .ok ((), { s with badSeq := (BitVec.ofNat 16 n + 1).setWidth 32 }, p, false)
    else .ok ((), { s with received := s.received + 1 }, p, true) := by
  obtain ⟨sender, maxSeq, badSeq, -⟩ := entry_seen found seen raw
  have marked := marked found
  have udelta := udelta_eq (Nat.le_of_lt (before m.near marked.near))
  have again := badSeq_eq_iff fun far seen => before far (marked.far far seen)
  unfold RTP.updateMember
  rw [if_pos sender, RTP.update_seq_plain]
  dsimp only
  rw [maxSeq, udelta, badSeq]
  split
  · rfl
  · rename_i beyond
    have jumps : m.Jumps n ↔ (n - m.near) % RTP_SEQ_MOD ≤ RTP_SEQ_MOD - MAX_MISORDER :=
      and_iff_right (Nat.le_of_not_lt beyond)
    simp only [jumps, again]

omit before seen in
theorem gauge_eq_expected {rme : RTPMemberEntry} (sender : rme.sender = true)
    (maxSeq : rme.maxSeq = BitVec.ofNat 16 (m.next n).near) (badSeq : rme.badSeq = (m.next n).badSeq)
    (received : rme.received = BitVec.ofNat 32 (h.arrived.length - refused.length)) :
    gauge rme = expected (n :: h.arrived) refused := by
  have marked : marks (n :: h.arrived) = some (m.next n) := by
    unfold marks
    rw [found, Option.elim_some]
  rw [gauge, if_pos sender, expected, marked, maxSeq, badSeq, received]
  rfl

theorem far_update (jumps : m.Jumps n) : h.rtp.updateMember RTP.hooks raw
      ⟨source, BitVec.ofNat 16 n, timestamp, payloadLength, contextPointer⟩ =
    if ∃ far ∈ m.far, (n - far) % RTP_SEQ_MOD = 1 then .error .assertFailed
    else .ok ((), { h.rtp.memberEntry raw source with badSeq := (BitVec.ofNat 16 n + 1).setWidth 32 },
      ⟨source, BitVec.ofNat 16 n, timestamp, payloadLength, contextPointer⟩, false) :=
  (updateMember_eq found before seen).trans ((if_neg (Nat.not_lt_of_le jumps.1)).trans (if_pos jumps))

theorem far_step (now : SimTime) (jumps : m.Jumps n) (fresh : ¬ ∃ far ∈ m.far, (n - far) % RTP_SEQ_MOD = 1) : ∃ rtp,
    h.step source (.packet n now raw timestamp payloadLength contextPointer) =
        .ok ⟨rtp, n :: h.arrived, n :: h.refused⟩ ∧
      rtp.ssrc = h.rtp.ssrc ∧ rtp.memberSet.observed gauge source = expected (n :: h.arrived) (n :: h.refused) := by
  obtain ⟨sender, maxSeq, badSeq, received⟩ := entry_seen found seen raw
  have updated : h.rtp.updateMember RTP.hooks raw
      ⟨source, BitVec.ofNat 16 n, timestamp, payloadLength, contextPointer⟩ = _ :=
    (far_update found before seen jumps).trans (if_neg fresh)
  have marks : m.next n = { m with far := some n } := (if_neg (Nat.not_lt_of_le jumps.1)).trans (if_pos jumps)
  refine (step_of_update updated).imp fun rtp parts => ⟨parts.1, parts.2.1, parts.2.2.trans ?_⟩
  refine gauge_eq_expected found ?_ ?_ ?_ ?_
  · exact sender
  · rw [marks]
    exact maxSeq
  · rw [marks]
    rfl
  · rw [List.length_cons, ← Nat.sub_sub, Nat.sub_right_comm]
    exact received

variable (fewer : h.refused.length + 1 ≤ h.arrived.length)

include fewer

omit found before seen in
theorem received_succ : BitVec.ofNat 32 (h.arrived.length - 1 - h.refused.length) + 1 =
    BitVec.ofNat 32 (h.arrived.length - h.refused.length) := by
  have more : h.arrived.length - h.refused.length = h.arrived.length - 1 - h.refused.length + 1 := by omega
  rw [more, BitVec.ofNat_add]
  rfl

theorem near_step (now : SimTime) (near : ¬ m.Jumps n) : ∃ rtp,
    h.step source (.packet n now raw timestamp payloadLength contextPointer) = .ok ⟨rtp, n :: h.arrived, h.refused⟩ ∧
      rtp.ssrc = h.rtp.ssrc ∧ rtp.memberSet.observed gauge source = expected (n :: h.arrived) h.refused := by
  obtain ⟨sender, maxSeq, badSeq, received⟩ := entry_seen found seen raw
  have counts := (congrArg (· + 1) received).trans (received_succ fewer)
  by_cases close : (n - m.near) % RTP_SEQ_MOD < MAX_DROPOUT
  · have updated : h.rtp.updateMember RTP.hooks raw
        ⟨source, BitVec.ofNat 16 n, timestamp, payloadLength, contextPointer⟩ = _ :=
      (updateMember_eq found before seen).trans (if_pos close)
    have marks : m.next n = { m with near := n } := if_pos close
    refine (step_of_update updated).imp fun rtp parts => ⟨parts.1, parts.2.1, parts.2.2.trans ?_⟩
    refine gauge_eq_expected found ?_ ?_ ?_ ?_
    · exact sender
    · rw [marks]
    · rw [marks]
      exact badSeq
    · exact counts
  · have updated : h.rtp.updateMember RTP.hooks raw
        ⟨source, BitVec.ofNat 16 n, timestamp, payloadLength, contextPointer⟩ = _ :=
      (updateMember_eq found before seen).trans ((if_neg close).trans (if_neg near))
    have marks : m.next n = m := (if_neg close).trans (if_neg near)
    refine (step_of_update updated).imp fun rtp parts => ⟨parts.1, parts.2.1, parts.2.2.trans ?_⟩
    refine gauge_eq_expected found ?_ ?_ ?_ ?_
    · exact sender
    · rw [marks]
      exact maxSeq
    · rw [marks]
      exact badSeq
    · exact counts

end Packet

/-- What every run keeps -/
structure Follows (own source : BitVec 32) (h : RTPOutages) : Prop where
  own : h.rtp.ssrc = own
  ordered : h.arrived.Pairwise (· > ·)
  refused : h.refused.Sublist (behindOutages h.arrived)
  seen : h.rtp.memberSet.observed gauge source = expected h.arrived h.refused

theorem follows_start (raw : RTPMemberEntry) (apart : source ≠ own) : Follows own source (start own raw) where
  own := rfl
  ordered := List.Pairwise.nil
  refused := List.Sublist.slnil
  seen := (MemberSet.observed_insert_ne apart.symm).trans rfl

namespace Follows

variable {now timestamp : SimTime} {raw : RTPMemberEntry} {payloadLength : BitVec 32} {contextPointer : Option Nat}

theorem fewer (follows : Follows own source h) (heard : h.arrived ≠ []) : h.refused.length + 1 ≤ h.arrived.length := by
  have short := follows.refused.length_le
  cases arrived : h.arrived with
  | nil => exact absurd arrived heard
  | cons last earlier =>
      rw [arrived] at short
      exact Nat.succ_le_succ (short.trans length_behindOutages)

theorem before (follows : Follows own source h)
    (inOrder : h.InOrder source (.packet n now raw timestamp payloadLength contextPointer)) : ∀ k ∈ h.arrived, k < n := by
  have ordered := follows.ordered
  have later : ∀ last ∈ h.arrived.head?, last < n := inOrder
  cases arrived : h.arrived with
  | nil => exact fun k inside => absurd inside List.not_mem_nil
  | cons last earlier =>
      rw [arrived] at ordered later
      intro k inside
      rcases List.mem_cons.mp inside with rfl | behind
      · exact later _ rfl
      · exact ((List.pairwise_cons.mp ordered).1 k behind).trans (later last rfl)

theorem behind_of_jumps (follows : Follows own source h) (found : marks h.arrived = some m)
    (before : ∀ k ∈ h.arrived, k < n) (jumps : m.Jumps n) (fresh : ∀ far ∈ m.far, (n - far) % RTP_SEQ_MOD ≠ 1) :
    (n :: h.refused).Sublist (behindOutages (n :: h.arrived)) := by
  have refused := follows.refused
  have ordered := follows.ordered
  have marked := marked found
  cases arrived : h.arrived with
  | nil =>
      rw [arrived] at found
      cases found
  | cons last earlier =>
      rw [arrived] at refused marked ordered
      have apart : n ≠ last + 1 := by
        rintro rfl
        refine not_jumps_succ marked ?_ fresh jumps
        rcases List.mem_cons.mp marked.near with same | behind
        · exact Nat.le_of_eq same
        · exact Nat.le_of_lt ((List.pairwise_cons.mp ordered).1 _ behind)
      rw [behindOutages, if_neg apart]
      exact refused.cons_cons n

theorem sublist_behindOutages (follows : Follows own source h) (n : Nat) :
    h.refused.Sublist (behindOutages (n :: h.arrived)) := by
  have refused := follows.refused
  cases arrived : h.arrived with
  | nil =>
      rw [arrived] at refused
      exact refused.trans (List.nil_sublist _)
  | cons last earlier =>
      rw [arrived] at refused
      unfold behindOutages
      split
      · exact refused
      · exact refused.cons n

theorem packet (follows : Follows own source h)
    (inOrder : h.InOrder source (.packet n now raw timestamp payloadLength contextPointer)) :
    (h.Steady (.packet n now raw timestamp payloadLength contextPointer) → ∃ after,
      h.step source (.packet n now raw timestamp payloadLength contextPointer) = .ok after ∧ Follows own source after) ∧
    (¬ h.Steady (.packet n now raw timestamp payloadLength contextPointer) →
      h.step source (.packet n now raw timestamp payloadLength contextPointer) = .error .assertFailed) := by
  have before := follows.before inOrder
  have ordered : (n :: h.arrived).Pairwise (· > ·) := List.pairwise_cons.mpr ⟨before, follows.ordered⟩
  cases found : marks h.arrived with
  | none =>
      have arrived : h.arrived = [] := by
        cases arrived : h.arrived with
        | nil => rfl
        | cons last earlier =>
            rw [arrived] at found
            cases found
      have refused : h.refused = [] := by
        have refused := follows.refused
        rw [arrived] at refused
        exact List.eq_nil_of_sublist_nil refused
      have seen := follows.seen
      rw [expected, found] at seen
      constructor
      · intro _
        obtain ⟨rtp, steps, same, seen'⟩ := first_step (n := n) now seen
        refine ⟨_, steps, same.trans follows.own, ordered, follows.sublist_behindOutages n, ?_⟩
        rw [arrived, refused]
        exact seen'
      · exact fun unsteady => absurd (fun m marked => nomatch found.symm.trans marked) unsteady
  | some m =>
      have heard : h.arrived ≠ [] := List.ne_nil_of_mem (marked found).near
      have steady : h.Steady (.packet n now raw timestamp payloadLength contextPointer) ↔
          (m.Jumps n → ∀ far ∈ m.far, (n - far) % RTP_SEQ_MOD ≠ 1) := by
        unfold Steady
        rw [found]
        simp only [Option.mem_some_iff, forall_eq']
      rw [steady]
      by_cases jumps : m.Jumps n
      · constructor
        · intro fresh
          obtain ⟨rtp, steps, same, seen⟩ := far_step found before follows.seen now jumps
            fun again => again.elim fun far both => fresh jumps far both.1 both.2
          exact ⟨_, steps, same.trans follows.own, ordered, follows.behind_of_jumps found before jumps (fresh jumps), seen⟩
        · intro unsteady
          have again : ∃ far ∈ m.far, (n - far) % RTP_SEQ_MOD = 1 := by
            by_contra none
            exact unsteady fun _ far seen same => none ⟨far, seen, same⟩
          exact step_of_fault ((far_update found before follows.seen jumps).trans (if_pos again))
      · constructor
        · intro _
          obtain ⟨rtp, steps, same, seen⟩ := near_step found before follows.seen (follows.fewer heard) now jumps
          exact ⟨_, steps, same.trans follows.own, ordered, follows.sublist_behindOutages n, seen⟩
        · exact fun unsteady => absurd (fun jumps' => absurd jumps' jumps) unsteady

theorem other {after : RTPOutages} {event : RTP.Event} (follows : Follows own source h) (apart : source ≠ own)
    (inOrder : h.InOrder source (.other event)) (steps : h.step source (.other event) = .ok after) :
    Follows own source after := by
  obtain ⟨rtp, stepped, rfl⟩ := map_eq_ok steps
  obtain ⟨same, seen⟩ := RTPHistory.other_observed gauge_silent (fun _ _ => rfl)
    (by rwa [follows.own]) (fun _ _ => (congrFun Option.map_id _).symm)
    (fun _ _ _ this => by cases this; exact inOrder) stepped
  have kept : rtp.memberSet.observed gauge source = if (Event.other event).leaves source then none
      else h.rtp.memberSet.observed gauge source := by
    refine seen.trans ?_
    cases event with
    | rtcpTimeout now => exact congrFun Option.map_id _
    | rtp | rtcp | rtpTimeout => rfl
  dsimp only
  by_cases leaves : (Event.other event).leaves source = true
  · rw [if_pos leaves] at kept
    rw [if_pos leaves]
    exact ⟨same.trans follows.own, List.Pairwise.nil, List.Sublist.slnil, kept⟩
  · rw [if_neg leaves] at kept
    rw [if_neg leaves]
    exact ⟨same.trans follows.own, follows.ordered, follows.refused, kept.trans follows.seen⟩

theorem step {after : RTPOutages} {e : Event} (follows : Follows own source h) (apart : source ≠ own)
    (admits : h.InOrder source e ∧ h.Steady e) (steps : h.step source e = .ok after) : Follows own source after := by
  cases e with
  | packet n now raw timestamp payloadLength contextPointer =>
      obtain ⟨after', steps', follows'⟩ := (follows.packet admits.1).1 admits.2
      cases steps.symm.trans steps'
      exact follows'
  | other event => exact follows.other apart admits.1 steps

/-- The packets that were counted and those that were refused are all but the first one. -/
theorem delivered (follows : Follows own source h) : h.Delivered source where
  refused := follows.refused
  counted rme stored heard := by
    have fewer := follows.fewer heard
    have seen := follows.seen
    unfold MemberSet.observed at seen
    rw [stored, Option.bind_some, expected, gauge] at seen
    cases found : marks h.arrived with
    | none =>
        cases arrived : h.arrived with
        | nil => exact absurd arrived heard
        | cons last earlier =>
            rw [arrived] at found
            cases found
    | some m =>
        rw [found] at seen
        cases sender : rme.sender with
        | false =>
            rw [sender] at seen
            cases seen
        | true =>
            rw [sender] at seen
            have received : rme.received = BitVec.ofNat 32 (h.arrived.length - 1 - h.refused.length) :=
              congrArg (·.2.2) (Option.some.inj seen)
            have one : (1 : BitVec 32) = BitVec.ofNat 32 1 := rfl
            rw [received, one, ← BitVec.ofNat_add, ← BitVec.ofNat_add]
            congr 1
            omega

end Follows

end RTPOutages

end IPv6Suite
