import IPv6Suite.TCPSendRange
import IPv6Suite.TCPTimers

namespace IPv6Suite

open Lib

namespace TCPConnection

variable {c c' : TCPConnection} {tcpseg : TCPSegment}

def NoFin (c : TCPConnection) : Prop := ∀ tcpseg ∈ c.transmissions, tcpseg.finBit = false

/-- How many numbers up to the end of the send queue are not acknowledged -/
def unfinished (c : TCPConnection) : Nat := (c.sendQueue.endSeq - c.sndUna).toNat

/-- The bytes up to the place of the FIN, from `snd_nxt` on -/
def toFin (c : TCPConnection) : Nat := (c.sndFinSeq - c.sndNxt).toNat

/-- The FIN is what was sent last. -/
def PastFin (c : TCPConnection) : Prop := c.sendFin = true ∧ c.sndNxt = c.sndFinSeq + 1

/-- Up to `n` bytes are sent, all of them before the FIN, or the last of them with the FIN. -/
def SendsUpTo (c : TCPConnection) (n : Nat) (c' : TCPConnection) : Prop :=
  c'.exceptSegments = c.exceptSegments ∧
    (c'.PastFin ∧ c.toFin ≤ n ∨
      c'.NoFin ∧ ∃ m ≤ n, c'.sndNxt = c.sndNxt + BitVec.ofNat 32 m ∧
        (c.sendFin = true → m < c.toFin))

theorem NoFin.append (none : c.NoFin) (toIP : c'.toIP = c.toIP ++ [tcpseg])
    (finBit : tcpseg.finBit = false) : c'.NoFin := by
  intro sent mem
  unfold transmissions at mem
  rw [toIP, List.filter_append, List.mem_append] at mem
  rcases mem with mem | mem
  · exact none sent mem
  · obtain rfl := List.mem_singleton.mp (List.mem_filter.mp mem).1
    exact finBit

theorem NoFin.of_same (none : c.NoFin) (same : c'.transmissions = c.transmissions) : c'.NoFin := by
  unfold NoFin
  rw [same]
  exact none

variable {bytes : Nat}

theorem toFin_iff (le : bytes ≤ c.toFin) : c.sndNxt + BitVec.ofNat 32 bytes = c.sndFinSeq ↔ bytes = c.toFin := by
  unfold toFin at *
  constructor
  · intro last
    rw [← last]
    bv_omega
  · rintro rfl
    bv_omega

theorem sendSegment_noFin (none : c.NoFin)
    (before : ¬ (c.sendFin = true ∧ c.sndNxt + BitVec.ofNat 32 bytes = c.sndFinSeq)) : OnReturn
    (fun c' => c'.NoFin ∧ c'.exceptSegments = c.exceptSegments ∧ c'.sndNxt = c.sndNxt + BitVec.ofNat 32 bytes)
    (c.sendSegment bytes) := by
  unfold sendSegment TCPVirtualDataSendQueue.createSegmentWithBytes Exec.assert
  split
  · refine Ensures.ok_bind ?_
    dsimp only
    rw [if_neg before]
    exact ⟨none.append rfl rfl, rfl, rfl⟩
  · exact True.intro

theorem sendSegment_upTo (none : c.NoFin) (le : c.sendFin = true → bytes ≤ c.toFin) : OnReturn
    (fun c' => c'.exceptSegments = c.exceptSegments ∧ (c'.PastFin ∧ c.toFin = bytes ∨
        c'.NoFin ∧ c'.sndNxt = c.sndNxt + BitVec.ofNat 32 bytes ∧ (c.sendFin = true → bytes < c.toFin)))
    (c.sendSegment bytes) := by
  by_cases last : c.sendFin = true ∧ c.sndNxt + BitVec.ofNat 32 bytes = c.sndFinSeq
  · refine (c.sendSegment_returns bytes).imp ?_
    rintro c' ⟨same, nxt⟩
    have fin : c'.sendFin = c.sendFin := (congrArg sendFin same :)
    have finSeq : c'.sndFinSeq = c.sndFinSeq := (congrArg sndFinSeq same :)
    unfold nxtAfter at nxt
    dsimp only at nxt
    rw [if_pos last, last.2] at nxt
    refine ⟨same, Or.inl ⟨⟨fin.trans last.1, ?_⟩, ?_⟩⟩
    · rw [nxt, finSeq]
    · exact ((toFin_iff (le last.1)).mp last.2).symm
  · refine (sendSegment_noFin none last).imp ?_
    rintro c' ⟨none', same, nxt⟩
    refine ⟨same, Or.inr ⟨none', nxt, fun fin => ?_⟩⟩
    apply Nat.lt_of_le_of_ne (le fin)
    intro all
    exact last ⟨fin, (toFin_iff (le fin)).mpr all⟩

theorem toFin_advance {m : Nat} (same : c'.exceptSegments = c.exceptSegments)
    (nxt : c'.sndNxt = c.sndNxt + BitVec.ofNat 32 m) (before : m < c.toFin) : c'.toFin = c.toFin - m := by
  have finSeq : c'.sndFinSeq = c.sndFinSeq := (congrArg sndFinSeq same :)
  unfold toFin at *
  rw [finSeq, nxt]
  bv_omega

theorem SendsUpTo.refl (none : c.NoFin) (n : Nat) (before : c.sendFin = true → 0 < c.toFin) : c.SendsUpTo n c :=
  ⟨rfl, Or.inr ⟨none, 0, Nat.zero_le n, (BitVec.add_zero _).symm, before⟩⟩

theorem SendsUpTo.after {c'' : TCPConnection} {bytes n : Nat} (same : c'.exceptSegments = c.exceptSegments)
    (nxt : c'.sndNxt = c.sndNxt + BitVec.ofNat 32 bytes)
    (before : c.sendFin = true → bytes < c.toFin) (le : bytes ≤ n)
    (rest : c'.SendsUpTo (n - bytes) c'') : c.SendsUpTo n c'' := by
  have fin : c'.sendFin = c.sendFin := (congrArg sendFin same :)
  obtain ⟨further, sent⟩ := rest
  refine ⟨further.trans same, ?_⟩
  rcases sent with ⟨past, all⟩ | ⟨none, m, most, next, room⟩
  · have fin' : c''.sendFin = c'.sendFin := (congrArg sendFin further :)
    have sendFin : c.sendFin = true := fin.symm.trans (fin'.symm.trans past.1)
    have left := toFin_advance same nxt (before sendFin)
    exact Or.inl ⟨past, by omega⟩
  · refine Or.inr ⟨none, bytes + m, by omega, ?_, fun sendFin => ?_⟩
    · rw [next, nxt, BitVec.add_assoc, ← BitVec.ofNat_add]
    · have left := toFin_advance same nxt (before sendFin)
      have room := room (fin.trans sendFin)
      omega

theorem SendsUpTo.all {bytes n : Nat} (same : c'.exceptSegments = c.exceptSegments)
    (past : c'.PastFin) (all : c.toFin = bytes) (le : bytes ≤ n) : c.SendsUpTo n c' :=
  ⟨same, Or.inl ⟨past, all.trans_le le⟩⟩

variable {bytesToSend fuel : Nat}

theorem sendWholeSegments_upTo (mss : 0 < c.sndMss.toNat)
    (none : c.NoFin) (before : c.sendFin = true → 0 < c.toFin ∧ bytesToSend ≤ c.toFin) :
    OnReturn (c.SendsUpTo bytesToSend) (c.sendWholeSegments bytesToSend fuel) := by
  induction fuel generalizing c bytesToSend with
  | zero =>
      unfold sendWholeSegments
      exact Ensures.ite (fun _ => .refl none _ fun fin => (before fin).1) fun _ => True.intro
  | succ fuel ih =>
      unfold sendWholeSegments
      refine Ensures.ite (fun _ => .refl none _ fun fin => (before fin).1) fun more => ?_
      have whole : c.sndMss.toNat ≤ bytesToSend := Nat.le_of_not_lt more
      refine Ensures.bind (sendSegment_upTo none fun fin => whole.trans (before fin).2) ?_
      rintro c₁ ⟨same, sent⟩
      have mss₁ : c₁.sndMss = c.sndMss := (congrArg sndMss same :)
      have fin₁ : c₁.sendFin = c.sendFin := (congrArg sendFin same :)
      rw [mss₁]
      rcases sent with ⟨past, all⟩ | ⟨none₁, nxt, room⟩
      · have sendFin : c.sendFin = true := fin₁.symm.trans past.1
        have last : bytesToSend - c.sndMss.toNat = 0 := by
          have most := (before sendFin).2
          omega
        rw [last, sendWholeSegments_zero (mss₁ ▸ mss)]
        exact .all same past all whole
      · refine (ih (mss₁ ▸ mss) none₁ ?_).imp fun c₂ rest => .after same nxt room whole rest
        intro sendFin
        rw [fin₁] at sendFin
        rw [toFin_advance same nxt (room sendFin)]
        have room := room sendFin
        have most := (before sendFin).2
        omega

theorem sendSegment_all (none : c.NoFin) (le : c.sendFin = true → bytes ≤ c.toFin) :
    OnReturn (c.SendsUpTo bytes) (c.sendSegment bytes) := by
  refine (sendSegment_upTo none le).imp ?_
  rintro c' ⟨same, ⟨past, all⟩ | ⟨none', nxt, room⟩⟩
  · exact .all same past all (Nat.le_refl _)
  · exact ⟨same, Or.inr ⟨none', bytes, Nat.le_refl _, nxt, room⟩⟩

theorem sendBytes_upTo {bytesToSend : Nat} (mss : 0 < c.sndMss.toNat) (none : c.NoFin)
    (before : c.sendFin = true → 0 < c.toFin ∧ bytesToSend ≤ c.toFin) :
    OnReturn (c.SendsUpTo bytesToSend) (c.sendBytes bytesToSend) := by
  unfold sendBytes
  exact Ensures.ite (fun _ => sendSegment_all none fun fin => (before fin).2)
    fun _ => sendWholeSegments_upTo mss none before

theorem retransmitSegments_upTo (none : c.NoFin) (before : c.sendFin = true → bytesToSend < c.toFin) :
    OnReturn (c.SendsUpTo bytesToSend) (c.retransmitSegments bytesToSend fuel) := by
  have stops : c.SendsUpTo bytesToSend c :=
    .refl none _ fun fin => Nat.zero_lt_of_lt (before fin)
  induction fuel generalizing c bytesToSend with
  | zero =>
      unfold retransmitSegments
      exact Ensures.ite (fun _ => stops) fun _ => True.intro
  | succ fuel ih =>
      unfold retransmitSegments
      refine Ensures.ite (fun _ => stops) fun _ => ?_
      have part : min bytesToSend c.sndMss.toNat ≤ bytesToSend := Nat.min_le_left _ _
      refine Ensures.bind (sendSegment_upTo none fun fin => by
        have room := before fin
        omega) ?_
      rintro c₁ ⟨same, sent⟩
      have fin₁ : c₁.sendFin = c.sendFin := (congrArg sendFin same :)
      rcases sent with ⟨past, all⟩ | ⟨none₁, nxt, room⟩
      · have room := before (fin₁.symm.trans past.1)
        omega
      · have before₁ (sendFin : c₁.sendFin = true) :
            bytesToSend - min bytesToSend c.sndMss.toNat < c₁.toFin := by
          rw [fin₁] at sendFin
          rw [toFin_advance same nxt (room sendFin)]
          have most := before sendFin
          have room := room sendFin
          omega
        have stops₁ : c₁.SendsUpTo (bytesToSend - min bytesToSend c.sndMss.toNat) c₁ :=
          .refl none₁ _ fun fin => Nat.zero_lt_of_lt (before₁ fin)
        exact (ih none₁ before₁ stops₁).imp fun c₂ rest => .after same nxt room part rest

/-- The FIN has not been sent: `snd_max` is still before it, and fewer than 2^32 numbers are
in use. -/
structure BeforeFin (c : TCPConnection) : Prop where
  none : c.NoFin
  fits : c.unfinished + 1 < 2 ^ 32
  sent : c.outstanding ≤ c.unfinished
  pending : c.sendFin = true → c.sndFinSeq = c.sendQueue.endSeq ∧ c.outstanding < c.unfinished

/-- The FIN has not been sent, and `snd_nxt` is nowhere near it. -/
structure Unsent (c : TCPConnection) : Prop extends BeforeFin c where
  sndNxt : (c.sndNxt - c.sndUna).toNat ≤ c.outstanding

/-- What the invariant is about -/
def finVars (c : TCPConnection) :
    List TCPSegment × (BitVec 32 × BitVec 32 × BitVec 32) × Bool × BitVec 32 × BitVec 32 :=
  (c.transmissions, (c.sndUna, c.sndNxt, c.sndMax), c.sendFin, c.sndFinSeq, c.sendQueue.endSeq)

theorem BeforeFin.of_same (before : c.BeforeFin) (same : c'.finVars = c.finVars) : c'.BeforeFin := by
  unfold finVars at same
  simp only [Prod.mk.injEq] at same
  obtain ⟨transmissions, ⟨una, -, max⟩, fin, finSeq, endSeq⟩ := same
  have outstanding' : c'.outstanding = c.outstanding := by
    unfold outstanding
    rw [una, max]
  have unfinished' : c'.unfinished = c.unfinished := by
    unfold unfinished
    rw [una, endSeq]
  refine ⟨before.none.of_same transmissions, unfinished' ▸ before.fits, ?_, ?_⟩
  · rw [outstanding', unfinished']
    exact before.sent
  · rw [outstanding', unfinished', fin, finSeq, endSeq]
    exact before.pending

theorem Unsent.of_same (unsent : c.Unsent) (same : c'.finVars = c.finVars) : c'.Unsent := by
  refine ⟨unsent.toBeforeFin.of_same same, ?_⟩
  unfold finVars at same
  simp only [Prod.mk.injEq] at same
  obtain ⟨-, ⟨una, nxt, max⟩, -⟩ := same
  have near := unsent.sndNxt
  unfold outstanding at *
  rw [una, nxt, max]
  exact near

theorem finVars_of_exceptSegments (same : c'.exceptSegments = c.exceptSegments) :
    (c'.sndUna, c'.sndMax, c'.sendFin, c'.sndFinSeq, c'.sendQueue.endSeq) =
      (c.sndUna, c.sndMax, c.sendFin, c.sndFinSeq, c.sendQueue.endSeq) :=
  (congrArg (fun c : TCPConnection =>
    (c.sndUna, c.sndMax, c.sendFin, c.sndFinSeq, c.sendQueue.endSeq)) same :)

variable {n : Nat}

theorem Unsent.again (unsent : c.Unsent) (le : n ≤ c.outstanding)
    (sends : { c with sndNxt := c.sndUna }.SendsUpTo n c') : c'.Unsent := by
  obtain ⟨same, sent⟩ := sends
  have vars := finVars_of_exceptSegments same
  simp only [Prod.mk.injEq] at vars
  obtain ⟨una, max, fin, finSeq, endSeq⟩ := vars
  have pending (sendFin : c.sendFin = true) : n < { c with sndNxt := c.sndUna }.toFin := by
    obtain ⟨last, less⟩ := unsent.pending sendFin
    unfold toFin
    change n < (c.sndFinSeq - c.sndUna).toNat
    rw [last]
    exact Nat.lt_of_le_of_lt le less
  have still : c'.NoFin ∧ ∃ m ≤ n, c'.sndNxt = c.sndUna + BitVec.ofNat 32 m := by
    rcases sent with ⟨past, all⟩ | ⟨none, m, most, nxt, -⟩
    · have before := pending (fin.symm.trans past.1)
      omega
    · exact ⟨none, m, most, nxt⟩
  obtain ⟨none, m, most, nxt⟩ := still
  have outstanding' : c'.outstanding = c.outstanding := by
    unfold outstanding
    rw [una, max]
  have unfinished' : c'.unfinished = c.unfinished := by
    unfold unfinished
    rw [una, endSeq]
  refine ⟨⟨none, unfinished' ▸ unsent.fits, ?_, ?_⟩, ?_⟩
  · rw [outstanding', unfinished']
    exact unsent.sent
  · rw [outstanding', unfinished', fin, finSeq, endSeq]
    exact unsent.pending
  · rw [outstanding', nxt, una]
    have small : c.outstanding < 2 ^ 32 := BitVec.isLt _
    bv_omega

theorem retransmitOneSegment_unsent (unsent : c.Unsent) :
    OnReturn (fun c' => c'.Unsent) c.retransmitOneSegment := by
  unfold retransmitOneSegment
  dsimp only
  refine Ensures.ite (fun _ => True.intro) fun _ => ?_
  have le : min c.sndMss.toNat (c.sndMax - c.sndUna).toNat ≤ c.outstanding := Nat.min_le_right _ _
  have before (sendFin : c.sendFin = true) : min c.sndMss.toNat (c.sndMax - c.sndUna).toNat ≤
      { c with sndNxt := c.sndUna }.toFin := by
    obtain ⟨last, less⟩ := unsent.pending sendFin
    unfold toFin
    rw [last]
    exact le.trans (Nat.le_of_lt less)
  refine Ensures.bind (sendSegment_all (c := { c with sndNxt := c.sndUna }) unsent.none before) ?_
  intro c₁ sends
  exact (unsent.again le sends).of_same rfl

theorem retransmitData_unsent (unsent : c.Unsent) : OnReturn (fun c' => c'.Unsent) c.retransmitData := by
  unfold retransmitData
  dsimp only
  refine Ensures.ite (fun _ => True.intro) fun _ => ?_
  have before (sendFin : c.sendFin = true) :
      c.outstanding < { c with sndNxt := c.sndUna }.toFin := by
    obtain ⟨last, less⟩ := unsent.pending sendFin
    unfold toFin
    rw [last]
    exact less
  refine (retransmitSegments_upTo (c := { c with sndNxt := c.sndUna }) unsent.none before).imp ?_
  intro c' sends
  exact unsent.again (Nat.le_refl _) sends

/-- The FIN is still unsent, or it is what was sent last. -/
def UnsentOrPast (c : TCPConnection) : Prop := c.Unsent ∨ c.PastFin

theorem bytesAvailable_le (q : TCPVirtualDataSendQueue) (fromSeq : BitVec 32) :
    q.bytesAvailable fromSeq ≤ (q.endSeq - fromSeq).toNat := by
  unfold TCPVirtualDataSendQueue.bytesAvailable TCPVirtualDataSendQueue.bufferEndSeq
  split
  · exact Nat.le_refl _
  · exact Nat.zero_le _

theorem BeforeFin.advance (before : c.BeforeFin)
    (le : n ≤ (c.sendQueue.endSeq - c.sndMax).toNat)
    (sends : { c with sndNxt := c.sndMax }.SendsUpTo n c') :
    { c' with sndMax := c'.sndNxt }.UnsentOrPast := by
  obtain ⟨same, sent⟩ := sends
  have vars := finVars_of_exceptSegments same
  simp only [Prod.mk.injEq] at vars
  obtain ⟨una, -, fin, finSeq, endSeq⟩ := vars
  rcases sent with ⟨past, -⟩ | ⟨none, m, most, nxt, room⟩
  · exact Or.inr past
  · obtain ⟨-, fits, before, pending⟩ := before
    have nxt : c'.sndNxt = c.sndMax + BitVec.ofNat 32 m := nxt
    have more : { c' with sndMax := c'.sndNxt }.outstanding = c.outstanding + m := by
      unfold outstanding unfinished at *
      dsimp only
      rw [nxt, una]
      bv_omega
    have unfinished' : { c' with sndMax := c'.sndNxt }.unfinished = c.unfinished := by
      unfold unfinished
      dsimp only
      rw [una, endSeq]
    refine Or.inl ⟨⟨none, unfinished' ▸ fits, ?_, fun sendFin => ?_⟩, Nat.le_refl _⟩
    · rw [more, unfinished']
      unfold outstanding unfinished at *
      bv_omega
    · have sendFin : c.sendFin = true := fin.symm.trans sendFin
      have room : m < (c.sndFinSeq - c.sndMax).toNat := room sendFin
      obtain ⟨last, less⟩ := pending sendFin
      refine ⟨finSeq.trans (last.trans endSeq.symm), ?_⟩
      rw [more, unfinished']
      rw [last] at room
      unfold outstanding unfinished at *
      bv_omega

theorem sendData_unsent (before : c.BeforeFin) (mss : 0 < c.sndMss.toNat) (fullSegmentsOnly : Prop)
    [Decidable fullSegmentsOnly] (congestionWindow : Int) :
    OnReturn (fun r => r.2.UnsentOrPast) (c.sendData fullSegmentsOnly congestionWindow) := by
  have idle : { c with sndNxt := c.sndMax }.UnsentOrPast :=
    Or.inl ⟨⟨before.none, before.fits, before.sent, before.pending⟩, Nat.le_refl _⟩
  have available := bytesAvailable_le c.sendQueue c.sndMax
  unfold sendData
  dsimp only
  refine Ensures.ite (fun _ => idle) fun buffered => ?_
  refine Ensures.ite (fun _ => idle) fun _ => ?_
  refine Ensures.ite (fun _ => idle) fun _ => ?_
  have le := (Nat.min_le_right
    ({ c with sndNxt := c.sndMax }.effectiveWin congestionWindow).toNat _).trans available
  refine Ensures.bind (sendBytes_upTo (c := { c with sndNxt := c.sndMax }) mss before.none ?_) ?_
  · intro sendFin
    have last := (before.pending sendFin).1
    have some : 0 < (c.sendQueue.endSeq - c.sndMax).toNat := by omega
    unfold toFin
    rw [last]
    exact ⟨some, le⟩
  · intro c₁ sends
    obtain ⟨rexmitCount, rtseq, rtseqSendtime, notified⟩ :=
      TCPBaseAlg.dataSent_eq (TCPBaseAlg.ackSent { c₁ with sndMax := c₁.sndNxt }) c.sndMax
    rw [notified]
    exact (before.advance le sends).imp (fun unsent' => unsent'.of_same rfl) id

theorem UnsentOrPast.of_same (sent : c.UnsentOrPast) (same : c'.finVars = c.finVars) : c'.UnsentOrPast := by
  refine sent.imp (fun unsent => unsent.of_same same) fun past => ?_
  unfold finVars at same
  simp only [Prod.mk.injEq] at same
  obtain ⟨-, ⟨-, nxt, -⟩, fin, finSeq, -⟩ := same
  unfold PastFin
  rw [nxt, fin, finSeq]
  exact past

theorem UnsentOrPast.unsent (sent : c.UnsentOrPast) (fin : c.sendFin = false) : c.Unsent :=
  sent.resolve_right fun past => Bool.noConfusion (fin.symm.trans past.1)

end TCPConnection

namespace TCPAlgorithm

open TCPTahoeRenoFamily (increaseCwnd)

variable {c : TCPConnection}

theorem finVars_increaseCwnd (c : TCPConnection) : (increaseCwnd c).finVars = c.finVars := by
  unfold increaseCwnd
  split <;> rfl

theorem sndMss_increaseCwnd (c : TCPConnection) : (increaseCwnd c).sndMss = c.sndMss := by
  unfold increaseCwnd
  split <;> rfl

theorem sendCommandInvoked_unsent (before : c.BeforeFin) (mss : 0 < c.sndMss.toNat) :
    OnReturn (fun c' => c'.UnsentOrPast) (TCPBaseAlg.sendCommandInvoked c) :=
  Ensures.bind (TCPConnection.sendData_unsent before mss _ _) fun _ sent => sent

theorem receivedDataAck_unsent (before : c.BeforeFin) (mss : 0 < c.sndMss.toNat) :
    OnReturn (fun c' => c'.UnsentOrPast) (receivedDataAck c) := by
  obtain ⟨rexmitCount, rtseqSendtime, notified⟩ := TCPBaseAlg.receivedDataAck_eq c
  unfold receivedDataAck
  split
  · unfold TCPTahoe.receivedDataAck
    rw [notified]
    apply sendCommandInvoked_unsent
    · exact before.of_same (finVars_increaseCwnd _)
    · rw [sndMss_increaseCwnd]
      exact mss
  · unfold TCPReno.receivedDataAck
    rw [notified]
    apply sendCommandInvoked_unsent
    · apply before.of_same
      split
      · rfl
      · exact finVars_increaseCwnd _
    · split
      · exact mss
      · rw [sndMss_increaseCwnd]
        exact mss
  · unfold TCPNoCongestionControl.receivedDataAck
    rw [notified]
    exact sendCommandInvoked_unsent (before.of_same rfl) mss

theorem receivedDuplicateAck_unsent (unsent : c.Unsent) :
    OnReturn (fun c' => c'.Unsent) (receivedDuplicateAck c) := by
  unfold receivedDuplicateAck
  split
  · unfold TCPTahoe.receivedDuplicateAck
    refine Ensures.ite (fun _ => ?_) fun _ => unsent
    refine Ensures.bind (TCPConnection.retransmitOneSegment_unsent unsent) fun c₁ unsent₁ => ?_
    rw [restartRexmitTimer_eq]
    exact unsent₁.of_same rfl
  · unfold TCPReno.receivedDuplicateAck
    refine Ensures.ite (fun _ => ?_) fun _ => ?_
    · refine Ensures.bind (TCPConnection.retransmitOneSegment_unsent unsent) fun c₁ unsent₁ => ?_
      rw [restartRexmitTimer_eq]
      exact unsent₁.of_same rfl
    · rw [Ensures.ok_iff]
      split
      · exact unsent.of_same rfl
      · exact unsent
  · exact unsent

theorem processRexmitTimer_unsent (unsent : c.Unsent) : OnReturn (fun r => r.2.Unsent) (processRexmitTimer c) := by
  have base : OnReturn (fun r => r.2.Unsent) (TCPBaseAlg.processRexmitTimer c) := by
    unfold TCPBaseAlg.processRexmitTimer
    refine Ensures.ite (fun _ => unsent.of_same rfl) fun _ => ?_
    exact Ensures.bind Ensures.trivial fun _ _ => unsent.of_same rfl
  unfold processRexmitTimer
  split
  · refine Ensures.bind base fun r unsent₁ => ?_
    refine Ensures.ite (fun _ => unsent₁) fun _ => ?_
    refine Ensures.bind (TCPConnection.retransmitOneSegment_unsent (unsent₁.of_same rfl)) ?_
    exact fun c₁ unsent₂ => unsent₂
  · refine Ensures.bind base fun r unsent₁ => ?_
    refine Ensures.ite (fun _ => unsent₁) fun _ => ?_
    refine Ensures.bind (TCPConnection.retransmitData_unsent (unsent₁.of_same rfl)) ?_
    exact fun c₁ unsent₂ => unsent₂
  · refine Ensures.bind base fun r unsent₁ => ?_
    refine Ensures.ite (fun _ => unsent₁) fun _ => ?_
    exact Ensures.bind (TCPConnection.retransmitOneSegment_unsent unsent₁) fun c₁ unsent₂ => unsent₂

end TCPAlgorithm

namespace TCPConnection

variable {c c' : TCPConnection} {tcpseg : TCPSegment}

theorem discardUpTo_endSeq (q : TCPVirtualDataSendQueue) (seqNum : BitVec 32) :
    OnReturn (fun q' => q'.endSeq = q.endSeq) (q.discardUpTo seqNum) := by
  unfold TCPVirtualDataSendQueue.discardUpTo
  exact Ensures.bind Ensures.trivial fun _ _ => rfl

/-- An acknowledgement of something new leaves fewer numbers in use. -/
theorem acceptAck_beforeFin (before : c.BeforeFin) (new : c.AcksNew tcpseg) :
    OnReturn (fun c' => c'.BeforeFin) (c.acceptAck tcpseg) := by
  have acked {c' : TCPConnection} (vars : c'.transmissions = c.transmissions ∧ c'.sendQueue.endSeq = c.sendQueue.endSeq ∧
      (c'.sndUna, c'.sndMax, c'.sendFin, c'.sndFinSeq) =
        (tcpseg.ackNo, c.sndMax, c.sendFin, c.sndFinSeq)) : c'.BeforeFin := by
    obtain ⟨some, within⟩ := new.outstanding
    simp only [Prod.mk.injEq] at vars
    obtain ⟨transmissions, endSeq, una, max, fin, finSeq⟩ := vars
    obtain ⟨none, fits, sent, pending⟩ := before
    have outstanding' : c'.outstanding = c.outstanding - (tcpseg.ackNo - c.sndUna).toNat := by
      unfold TCPConnection.outstanding at *
      rw [una, max]
      bv_omega
    have unfinished' : c'.unfinished = c.unfinished - (tcpseg.ackNo - c.sndUna).toNat := by
      unfold TCPConnection.outstanding unfinished at *
      rw [una, endSeq]
      bv_omega
    refine ⟨none.of_same transmissions, by omega, by omega, ?_⟩
    rw [fin, finSeq, endSeq]
    intro sendFin
    obtain ⟨last, less⟩ := pending sendFin
    exact ⟨last, by omega⟩
  unfold acceptAck
  refine Ensures.bind (discardUpTo_endSeq _ _).mapError ?_
  intro sendQueue endSeq
  rw [Ensures.pure_iff]
  split
  all_goals
    have kept : sendQueue.endSeq = c.sendQueue.endSeq := by
      revert endSeq
      split <;> exact id
    split <;> exact acked ⟨rfl, kept, rfl⟩

theorem finVars_sendAck (c : TCPConnection) : c.sendAck.finVars = c.finVars := by
  unfold finVars
  rw [transmissions_sendAck]
  rfl

/-- The FIN goes out only with what an accepted acknowledgement makes room for. -/
theorem processAckInEstabEtc_unsent (unsent : c.Unsent) (mss : 0 < c.sndMss.toNat) : OnReturn
    (fun r => r.2.Unsent ∨ r.1 = true ∧ r.2.PastFin) (c.processAckInEstabEtc tcpseg) := by
  unfold processAckInEstabEtc
  refine Ensures.ite (fun _ => ?_) fun above => ?_
  · refine Ensures.ite (fun _ => ?_) fun _ => Or.inl (unsent.of_same rfl)
    have counted : { c with dupacks := c.dupacks + 1 }.Unsent := unsent.of_same rfl
    exact Ensures.bind (TCPAlgorithm.receivedDuplicateAck_unsent counted) fun c' unsent' =>
      Or.inl unsent'
  · refine Ensures.ite (fun within => ?_) fun _ => ?_
    · have accepted := (acceptAck_beforeFin unsent.toBeforeFin ⟨above, within⟩).and
        (c.acceptAck_returns tcpseg)
      refine Ensures.bind accepted fun c₁ ⟨before, same, _⟩ => ?_
      have mss₁ : c₁.sndMss = c.sndMss := (congrArg sndMss same :)
      refine Ensures.bind (TCPAlgorithm.receivedDataAck_unsent before (mss₁ ▸ mss)) fun c₂ sent => ?_
      exact sent.imp (fun unsent' => unsent'.of_same rfl) fun past => ⟨rfl, past⟩
    · refine Ensures.bind Ensures.trivial fun _ _ => ?_
      exact Or.inl (unsent.of_same (finVars_sendAck c))

theorem processAck_unsent (open' : c.fsm = .established ∨ c.fsm = .closeWait) (unsent : c.Unsent)
    (mss : 0 < c.sndMss.toNat) : OnReturn
    (fun check => match check with
      | .drop _ c' => c'.Unsent
      | .proceed _ c' => c'.UnsentOrPast)
    (c.processAck tcpseg) := by
  have processed := @processAckInEstabEtc_unsent c tcpseg unsent mss
  have outcome (r : Bool × TCPConnection) (sent : r.2.Unsent ∨ r.1 = true ∧ r.2.PastFin) :
      OnReturn (fun check => match check with
          | .drop _ c' => c'.Unsent
          | .proceed _ c' => c'.UnsentOrPast)
        (pure (if r.1 = true then .proceed .ignore r.2 else .drop .ignore r.2) : TCPExec AckCheck) := by
    cases ok : r.1 with
    | true => exact sent.imp_right And.right
    | false => exact sent.resolve_right fun past => Bool.noConfusion (ok.symm.trans past.1)
  unfold processAck
  rcases open' with fsm | fsm
  · rw [fsm]
    exact Ensures.bind processed outcome
  · rw [fsm]
    exact Ensures.bind processed outcome

theorem processAck_unsent_synRcvd (waits : c.fsm = .synRcvd) (unsent : c.Unsent)
    (mss : 0 < c.sndMss.toNat) : OnReturn
    (fun check => match check with
      | .drop _ _ => True
      | .proceed _ c' => c'.UnsentOrPast)
    (c.processAck tcpseg) := by
  have started : { c with sndCwnd := c.sndMss }.Unsent := unsent.of_same rfl
  unfold processAck
  rw [waits]
  refine Ensures.ite (fun _ => True.intro) fun _ => ?_
  refine Ensures.ok_bind ?_
  refine Ensures.bind (processAckInEstabEtc_unsent started mss) fun r sent => ?_
  rw [Ensures.pure_iff]
  cases r.1 with
  | true => exact sent.imp_right And.right
  | false => exact True.intro

def finPlace (c : TCPConnection) : Bool × BitVec 32 × BitVec 32 :=
  (c.sendFin, c.sndFinSeq, c.sendQueue.endSeq)

theorem acceptAck_finPlace (c : TCPConnection) (tcpseg : TCPSegment) :
    OnReturn (fun c' => c'.finPlace = c.finPlace) (c.acceptAck tcpseg) := by
  unfold acceptAck
  refine Ensures.bind (discardUpTo_endSeq _ _).mapError ?_
  intro sendQueue endSeq
  rw [Ensures.pure_iff]
  unfold finPlace
  split
  all_goals
    have kept : sendQueue.endSeq = c.sendQueue.endSeq := by
      revert endSeq
      split <;> exact id
    split <;> exact congrArg (c.sendFin, c.sndFinSeq, ·) kept

theorem processAckInEstabEtc_finPlace (c : TCPConnection) (tcpseg : TCPSegment) :
    OnReturn (fun r => r.2.finPlace = c.finPlace) (c.processAckInEstabEtc tcpseg) := by
  unfold processAckInEstabEtc
  refine Ensures.ite (fun _ => ?_) fun _ => ?_
  · refine Ensures.ite (fun _ => ?_) fun _ => rfl
    refine Ensures.bind (TCPAlgorithm.receivedDuplicateAck_returns _) fun c' retransmits => ?_
    exact (congrArg finPlace retransmits.same :)
  · refine Ensures.ite (fun _ => ?_) fun _ => ?_
    · refine Ensures.bind (c.acceptAck_finPlace tcpseg) fun c₁ accepted => ?_
      refine Ensures.bind (TCPAlgorithm.receivedDataAck_returns c₁) fun c₂ advances => ?_
      have sent : c₂.finPlace = c₁.finPlace := (congrArg finPlace advances.same :)
      exact sent.trans accepted
    · exact Ensures.bind Ensures.trivial fun _ _ => rfl

theorem processAck_finPlace (past : c.fsm ≠ .synRcvd) :
    OnReturn (fun check => check.connection.finPlace = c.finPlace) (c.processAck tcpseg) :=
  @processAck_keeps c _ (fun c' => c'.finPlace = c.finPlace) tcpseg past True.intro
    (fun kept same _ => ((congrArg finPlace same :) : _ = _).trans kept) (fun _ => rfl)
    fun _ => c.processAckInEstabEtc_finPlace tcpseg

variable {r : TCPEventCode × TCPConnection}

theorem SegmentReaction.finPlace
    (reaction : c.SegmentReaction tcpseg r) (past : opening c.fsm = false) (alive : c.fsm ≠ .closed) :
    r.2.finPlace = c.finPlace := by
  have synRcvd := synRcvd_not_late past
  cases reaction with
  | refused same => exact (congrArg TCPConnection.finPlace same :)
  | reset reset =>
      obtain ⟨code, same, -⟩ := processRst_late past alive
      cases reset.symm.trans same
      rfl
  | unexpected => rfl
  | drops _ checked => exact (processAck_finPlace synRcvd).of_ok checked
  | proceeds _ checked processed =>
      have acked := (processAck_finPlace synRcvd).of_ok checked
      have text := ((processTextAndFin_returns _ tcpseg _ _).of_ok processed).1
      have kept := (congrArg TCPConnection.finPlace text :)
      exact kept.trans acked

/-- What holds in every state: until a CLOSE is done there, the FIN is unsent. -/
structure FinInPlace (fsm : TcpState) (c : TCPConnection) : Prop where
  finSeq : c.sendFin = true → c.sndFinSeq = c.sendQueue.endSeq
  sendFin : beforeClose fsm = true → c.sendFin = false
  unsent : beforeClose fsm = true ∨ fsm = .closeWait → c.Unsent

variable {fsm : TcpState}

theorem FinInPlace.of_unclosed (unsent : c.Unsent) (fin : c.sendFin = false) :
    FinInPlace fsm c where
  finSeq := fun sendFin => Bool.noConfusion (fin.symm.trans sendFin)
  sendFin := fun _ => fin
  unsent := fun _ => unsent

theorem FinInPlace.of_unsent (late : beforeClose fsm = false) (unsent : c.Unsent) :
    FinInPlace fsm c where
  finSeq := fun sendFin => (unsent.pending sendFin).1
  sendFin := fun before => Bool.noConfusion (late.symm.trans before)
  unsent := fun _ => unsent

theorem FinInPlace.closing (late : beforeClose fsm = false) (other : fsm ≠ .closeWait)
    (finSeq : c.sendFin = true → c.sndFinSeq = c.sendQueue.endSeq) : FinInPlace fsm c where
  finSeq := finSeq
  sendFin := fun before => Bool.noConfusion (late.symm.trans before)
  unsent := fun holds => holds.elim (fun before => Bool.noConfusion (late.symm.trans before))
    fun closeWait => absurd closeWait other

theorem FinInPlace.of_same (inPlace : FinInPlace fsm c) (same : c'.finVars = c.finVars) : FinInPlace fsm c' := by
  have unsent (holds : beforeClose fsm = true ∨ fsm = .closeWait) : c'.Unsent :=
    (inPlace.unsent holds).of_same same
  unfold finVars at same
  simp only [Prod.mk.injEq] at same
  obtain ⟨-, -, fin, finSeq, endSeq⟩ := same
  refine ⟨?_, ?_, unsent⟩
  · rw [fin, finSeq, endSeq]
    exact inPlace.finSeq
  · rw [fin]
    exact inPlace.sendFin

theorem nextState_closing (late : beforeClose c.fsm = false) (other : c.fsm ≠ .closeWait) (event : TCPEventCode) :
    beforeClose (c.nextState event) = false ∧ c.nextState event ≠ .closeWait := by
  unfold nextState
  cases fsm : c.fsm
  case closeWait => exact absurd fsm other
  case init | listen | synSent | synRcvd | established =>
    rw [fsm] at late
    cases late
  all_goals cases event <;> exact ⟨rfl, nofun⟩

theorem nextState_closeWait (waits : c.fsm = .closeWait) (event : TCPEventCode) :
    beforeClose (c.nextState event) = false := by
  unfold nextState
  rw [waits]
  cases event <;> rfl

theorem Unsent.not_past (unsent : c.Unsent) (fin : c.sendFin = true) : c.sndNxt ≠ c.sndFinSeq + 1 := by
  obtain ⟨⟨-, fits, -, pending⟩, near⟩ := unsent
  obtain ⟨last, less⟩ := pending fin
  rw [last]
  unfold outstanding unfinished at *
  intro past
  rw [past] at near
  bv_omega

variable {event : TCPEventCode} {oldSndNxt : BitVec 32}

theorem processTextAndFin_close (waits : c.fsm = .closeWait) (past : c.PastFin) (moved : oldSndNxt ≠ c.sndNxt) :
    OnReturn (fun r => r.1 = .close) (c.processTextAndFin tcpseg event oldSndNxt) := by
  unfold processTextAndFin
  refine Ensures.bind ((c.processText_same tcpseg).fewer fun _ _ => True.intro) fun c₁ text => ?_
  have fin : OnReturn (fun r => r.2.exceptText = c.exceptText) (c₁.processFin tcpseg event) := by
    unfold processFin
    refine Ensures.ite (fun _ => ?_) fun _ => text
    refine OnReturn.of_ensures ((c₁.receiveFin tcpseg).finEvent_returns.imp ?_)
    rintro r ⟨-, timer, timer', same⟩
    rw [same]
    exact (c₁.receiveFin_same tcpseg).trans text
  refine Ensures.bind fin fun r same => ?_
  have notified := (r.2.acknowledge_same c.rcvNxt).trans same
  have fsm' : (r.2.acknowledge c.rcvNxt).fsm = c.fsm := (congrArg fsm notified :)
  have sendFin' : (r.2.acknowledge c.rcvNxt).sendFin = c.sendFin := (congrArg sendFin notified :)
  have nxt : (r.2.acknowledge c.rcvNxt).sndNxt = c.sndNxt := (congrArg sndNxt notified :)
  have finSeq : (r.2.acknowledge c.rcvNxt).sndFinSeq = c.sndFinSeq :=
    (congrArg sndFinSeq notified :)
  change deferredClose _ _ _ = _
  unfold deferredClose
  rw [fsm', sendFin', nxt, finSeq]
  exact if_pos ⟨waits, past.1, past.2, moved⟩

theorem finVars_of_text (processed : c.processTextAndFin tcpseg event oldSndNxt = .ok r) :
    r.2.finVars = c.finVars := by
  have text := ((processTextAndFin_returns _ tcpseg _ _).of_ok processed).1
  have vars := (congrArg (fun c : TCPConnection =>
    ((c.sndUna, c.sndNxt, c.sndMax), c.sendFin, c.sndFinSeq, c.sendQueue.endSeq)) text :)
  have sent := (processTextAndFin_transmissions _ tcpseg _ _).of_ok processed
  unfold finVars
  rw [sent]
  exact congrArg (c.transmissions, ·) vars

theorem finVars_of_exceptTimers (same : c'.exceptTimers = c.exceptTimers)
    (sent : c'.transmissions = c.transmissions) : c'.finVars = c.finVars := by
  have vars := (congrArg (fun c : TCPConnection =>
    ((c.sndUna, c.sndNxt, c.sndMax), c.sendFin, c.sndFinSeq, c.sendQueue.endSeq)) same :)
  unfold finVars
  rw [sent]
  exact congrArg (c.transmissions, ·) vars

/-- A segment in a state that sends data: the FIN stays unsent, or it is sent, and a deferred CLOSE
is done. -/
theorem SegmentReaction.unsent
    (reaction : c.SegmentReaction tcpseg r) (open' : c.fsm = .established ∨ c.fsm = .closeWait)
    (unsent : c.Unsent) (mss : 0 < c.sndMss.toNat) :
    r.2.Unsent ∨ r.2.PastFin ∧ (c.fsm = .closeWait → r.1 = .close) := by
  cases reaction with
  | refused same _ _ sent =>
      exact Or.inl (unsent.of_same (finVars_of_exceptTimers (exceptTimers_of_exceptOutput same) sent))
  | reset reset =>
      have late : opening c.fsm = false ∧ c.fsm ≠ .closed := by
        rcases open' with fsm | fsm <;> rw [fsm] <;> exact ⟨rfl, nofun⟩
      obtain ⟨code, same, -⟩ := processRst_late late.1 late.2
      cases reset.symm.trans same
      exact Or.inl (unsent.of_same rfl)
  | unexpected => exact Or.inl (unsent.of_same rfl)
  | drops _ checked => exact Or.inl ((processAck_unsent open' unsent mss).of_ok checked)
  | @proceeds event c₁ _ _ checked processed =>
      have acked : c₁.UnsentOrPast := (processAck_unsent open' unsent mss).of_ok checked
      have same := (c.processAck_same tcpseg).of_ok checked
      have fsm₁ : c₁.fsm = c.fsm := (congrArg TCPConnection.fsm same :)
      have fin₁ : c₁.sendFin = c.sendFin := (congrArg TCPConnection.sendFin same :)
      have finSeq₁ : c₁.sndFinSeq = c.sndFinSeq := (congrArg TCPConnection.sndFinSeq same :)
      refine (acked.of_same (finVars_of_text processed)).imp_right fun past' => ⟨past', fun waits => ?_⟩
      rcases acked with unsent₁ | past
      · have unsent' : r.2.Unsent := unsent₁.of_same (finVars_of_text processed)
        exact absurd past'.2 (unsent'.not_past past'.1)
      · have moved : c.sndNxt ≠ c₁.sndNxt := by
          rw [past.2, finSeq₁]
          exact unsent.not_past (fin₁.symm.trans past.1)
        exact (processTextAndFin_close (fsm₁.trans waits) past moved).of_ok processed

/-- What a step in CLOSE_WAIT leads to -/
def StaysOrCloses (next : TcpState) (c : TCPConnection) : Prop :=
  c.Unsent ∧ beforeClose next = false ∨
    next = .lastAck ∧ (c.sendFin = true → c.sndFinSeq = c.sendQueue.endSeq)

theorem StaysOrCloses.finInPlace {next : TcpState} (stays : StaysOrCloses next c) : FinInPlace next c := by
  rcases stays with ⟨unsent, late⟩ | ⟨lastAck, finSeq⟩
  · exact .of_unsent late unsent
  · rw [lastAck]
    exact .closing rfl nofun finSeq

theorem SegmentReaction.closeWait
    (reaction : c.SegmentReaction tcpseg r) (waits : c.fsm = .closeWait) (unsent : c.Unsent)
    (mss : 0 < c.sndMss.toNat) : StaysOrCloses (r.2.nextState r.1) r.2 := by
  have fsm := reaction.fsm.trans waits
  have place : r.2.finPlace = c.finPlace := by
    refine reaction.finPlace ?_ ?_
    all_goals rw [waits]
    · rfl
    · exact nofun
  unfold TCPConnection.finPlace at place
  simp only [Prod.mk.injEq] at place
  obtain ⟨fin, finSeq, endSeq⟩ := place
  rcases reaction.unsent (Or.inr waits) unsent mss with unsent' | ⟨-, closes⟩
  · exact Or.inl ⟨unsent', nextState_closeWait fsm r.1⟩
  · refine Or.inr ⟨?_, ?_⟩
    · rw [closes waits]
      exact nextState_eq fsm .close
    · rw [fin, finSeq, endSeq]
      exact fun sendFin => (unsent.pending sendFin).1

variable {msg : CMessage}

theorem Unsent.enqueue (unsent : c.Unsent) (fin : c.sendFin = false)
    (fits : c.unfinished + msg.bytes + 1 < 2 ^ 32) : (c.enqueueAppData msg).Unsent := by
  have more : (c.enqueueAppData msg).unfinished = c.unfinished + msg.bytes := by
    unfold unfinished enqueueAppData TCPVirtualDataSendQueue.enqueueAppData at *
    bv_omega
  refine ⟨⟨unsent.none, more ▸ fits, ?_, fun sendFin =>
    Bool.noConfusion (fin.symm.trans sendFin)⟩, unsent.sndNxt⟩
  rw [more]
  exact unsent.sent.trans (Nat.le_add_right _ _)

theorem sends_unsent (unsent : c.Unsent) (fin : c.sendFin = false)
    (mss : 0 < c.sndMss.toNat) (fits : c.unfinished + msg.bytes + 1 < 2 ^ 32) :
    OnReturn (fun c' => c'.Unsent ∧ c'.sendFin = false) (TCPBaseAlg.sendCommandInvoked (c.enqueueAppData msg)) := by
  have before := (unsent.enqueue fin fits).toBeforeFin
  refine ((TCPAlgorithm.sendCommandInvoked_unsent before mss).and
    (TCPBaseAlg.sendCommandInvoked_returns _)).imp ?_
  rintro c' ⟨sent, advances⟩
  have fin' : c'.sendFin = false := ((congrArg sendFin advances.same :) : _ = c.sendFin).trans fin
  exact ⟨sent.unsent fin', fin'⟩

/-- No SEND and no CLOSE comes while a CLOSE is deferred, and what is sent fits into the numbers. -/
def SparesFin (c : TCPConnection) : TCPInput → Prop
  | .command (.send msg) => ¬ (c.fsm = .closeWait ∧ c.sendFin = true) ∧
      (if c.fsm = .listen then 1 else c.unfinished) + msg.bytes + 1 < 2 ^ 32
  | .command .close => ¬ (c.fsm = .closeWait ∧ c.sendFin = true)
  | _ => True

/-- A deferred CLOSE -/
theorem queueFin_unsent (unsent : c.Unsent) (pending : c.sndMax ≠ c.sendQueue.endSeq) : c.queueFin.Unsent := by
  obtain ⟨⟨none, fits, sent, -⟩, near⟩ := unsent
  refine ⟨⟨none, fits, sent, fun _ => ⟨rfl, ?_⟩⟩, near⟩
  change c.outstanding < c.unfinished
  unfold outstanding unfinished at *
  bv_omega

variable {input : TCPInput}

theorem LateReaction.closeWait (reaction : c.LateReaction input r) (waits : c.fsm = .closeWait) (unsent : c.Unsent)
    (mss : 0 < c.sndMss.toNat) (spares : c.SparesFin input) : StaysOrCloses (r.2.nextState r.1) r.2 := by
  have fsm := reaction.fsm.trans waits
  have late := nextState_closeWait fsm r.1
  cases reaction with
  | sends _ sent =>
      obtain ⟨undeferred, fits⟩ := spares
      have other : c.fsm ≠ .listen := by rw [waits]; exact nofun
      rw [if_neg other] at fits
      have fin : c.sendFin = false := Bool.eq_false_iff.mpr fun fin => undeferred ⟨waits, fin⟩
      exact Or.inl ⟨((sends_unsent unsent fin mss fits).of_ok sent).1, late⟩
  | closes _ closes =>
      rcases processClose_cases (Or.inr (Or.inr waits)) closes with ⟨-, rfl⟩ | ⟨pending, rfl⟩
      · exact Or.inr ⟨nextState_eq fsm .close, fun _ => rfl⟩
      · exact Or.inl ⟨queueFin_unsent unsent pending, late⟩
  | quiet same _ _ _ sent => exact Or.inl ⟨unsent.of_same (finVars_of_exceptTimers same sent), late⟩
  | segment reaction => exact reaction.closeWait waits unsent mss
  | rexmit _ expires =>
      have off : { c with rexmitTimer := false }.Unsent := unsent.of_same rfl
      exact Or.inl ⟨(TCPAlgorithm.processRexmitTimer_unsent off).of_ok expires, late⟩

theorem LateReaction.established
    (reaction : c.LateReaction input r) (open' : c.fsm = .established) (unsent : c.Unsent)
    (fin : c.sendFin = false) (mss : 0 < c.sndMss.toNat) (spares : c.SparesFin input) :
    FinInPlace (r.2.nextState r.1) r.2 := by
  cases reaction with
  | sends _ sent =>
      have fits := spares.2
      have other : c.fsm ≠ .listen := by rw [open']; exact nofun
      rw [if_neg other] at fits
      obtain ⟨unsent', fin'⟩ := (sends_unsent unsent fin mss fits).of_ok sent
      exact .of_unclosed unsent' fin'
  | closes _ closes =>
      rcases processClose_cases (Or.inr (Or.inl open')) closes with ⟨-, rfl⟩ | ⟨-, rfl⟩
      · exact at_nextState FinInPlace (c.fsm_closing.trans open') rfl (.closing rfl nofun fun _ => rfl)
      · rw [open']
        exact at_nextState FinInPlace (c.fsm_queueFin.trans open') rfl (.closing rfl nofun fun _ => rfl)
  | quiet same _ _ _ sent =>
      have fin' := (congrArg sendFin same :)
      exact .of_unclosed (unsent.of_same (finVars_of_exceptTimers same sent)) (fin'.trans fin)
  | segment reaction =>
      have place : r.2.finPlace = c.finPlace := by
        refine reaction.finPlace ?_ ?_
        all_goals rw [open']
        · rfl
        · exact nofun
      have fin' : r.2.sendFin = false := (congrArg (·.1) place).trans fin
      have sent : r.2.UnsentOrPast := (reaction.unsent (Or.inl open') unsent mss).imp_right And.left
      exact .of_unclosed (sent.unsent fin') fin'
  | rexmit _ expires =>
      have off : { c with rexmitTimer := false }.Unsent := unsent.of_same rfl
      have same := ((TCPAlgorithm.processRexmitTimer_returns _).of_ok expires).same
      have fin' : r.2.sendFin = c.sendFin := (congrArg sendFin same :)
      exact .of_unclosed ((TCPAlgorithm.processRexmitTimer_unsent off).of_ok expires) (fin'.trans fin)

theorem LateReaction.finPlace
    (reaction : c.LateReaction input r) (past : opening c.fsm = false) (alive : c.fsm ≠ .closed)
    (open' : ¬ (c.fsm = .established ∨ c.fsm = .closeWait)) : r.2.finPlace = c.finPlace := by
  cases reaction with
  | sends waits | closes waits => exact absurd waits open'
  | quiet same => exact (congrArg TCPConnection.finPlace same :)
  | segment reaction => exact reaction.finPlace past alive
  | rexmit _ expires =>
      have same := ((TCPAlgorithm.processRexmitTimer_returns _).of_ok expires).same
      exact (congrArg TCPConnection.finPlace same :)

theorem LateReaction.finInPlace
    (reaction : c.LateReaction input r) (inPlace : FinInPlace c.fsm c) (past : opening c.fsm = false)
    (alive : c.fsm ≠ .closed) (mss : 0 < c.sndMss.toNat) (spares : c.SparesFin input) :
    FinInPlace (r.2.nextState r.1) r.2 := by
  by_cases waits : c.fsm = .closeWait
  · exact (reaction.closeWait waits (inPlace.unsent (Or.inr waits)) mss spares).finInPlace
  by_cases open' : c.fsm = .established
  · have before : beforeClose c.fsm = true := congrArg beforeClose open'
    exact reaction.established open' (inPlace.unsent (Or.inl before)) (inPlace.sendFin before) mss
      spares
  · have place := reaction.finPlace past alive (not_or.mpr ⟨open', waits⟩)
    unfold TCPConnection.finPlace at place
    simp only [Prod.mk.injEq] at place
    obtain ⟨fin, finSeq, endSeq⟩ := place
    have late : beforeClose r.2.fsm = false ∧ r.2.fsm ≠ .closeWait := by
      rw [reaction.fsm]
      refine ⟨?_, waits⟩
      generalize c.fsm = fsm at past open'
      cases fsm
      case established => exact absurd rfl open'
      case init | listen | synSent | synRcvd => cases past
      all_goals rfl
    obtain ⟨next, other⟩ := nextState_closing late.1 late.2 r.1
    refine .closing next other ?_
    rw [fin, finSeq, endSeq]
    exact inPlace.finSeq

/-- After a SYN with a new initial sequence number one number is in use. -/
theorem withSynSent_unsent (none : c'.NoFin) (fin : c'.sendFin = false)
    (vars : (c'.sndUna, c'.sndNxt, c'.sndMax, c'.sendQueue) = (c.withSynSent.sndUna,
      c.withSynSent.sndNxt, c.withSynSent.sndMax, c.withSynSent.sendQueue)) : c'.Unsent := by
  unfold withSynSent at vars
  simp only [Prod.mk.injEq] at vars
  obtain ⟨una, nxt, max, queue⟩ := vars
  have one : (c.clockIss + 1 - c.clockIss).toNat = 1 := by bv_omega
  have outstanding' : c'.outstanding = 1 := by
    unfold outstanding
    rw [una, max, one]
  have unfinished' : c'.unfinished = 1 := by
    unfold unfinished
    rw [una, queue, one]
  refine ⟨⟨none, ?_, ?_, fun sendFin => Bool.noConfusion (fin.symm.trans sendFin)⟩, ?_⟩
  · rw [unfinished']
    decide
  · rw [outstanding', unfinished']
  · rw [outstanding', nxt, una, one]

variable {sendQueue : TCPVirtualDataSendQueue}

theorem withSynAckReceived_beforeFin (unsent : c.Unsent)
    (outstanding : c.SynOutstanding) (fin : c.sendFin = false) (ackNo : tcpseg.ackNo = c.iss + 1)
    (discarded : c.sendQueue.discardUpTo tcpseg.ackNo = .ok sendQueue) :
    (c.withSynAckReceived tcpseg sendQueue).BeforeFin := by
  have endSeq := (discardUpTo_endSeq _ _).of_ok discarded
  have acked {c' : TCPConnection} (vars : c'.transmissions = c.transmissions ∧
      c'.sendQueue = sendQueue ∧ c'.sndUna = tcpseg.ackNo ∧ c'.sndMax = c.sndMax ∧
        c'.sendFin = c.sendFin) : c'.BeforeFin := by
    obtain ⟨transmissions, queue, una, max, fin'⟩ := vars
    obtain ⟨⟨none, fits, sent, -⟩, -⟩ := unsent
    have una' := outstanding.sndUna
    have max' := outstanding.sndMax
    unfold TCPConnection.outstanding unfinished at *
    refine ⟨none.of_same transmissions, ?_, ?_, fun sendFin => ?_⟩
    · unfold unfinished
      rw [queue, endSeq, una, ackNo]
      rw [una'] at fits sent
      rw [max'] at sent
      bv_omega
    · unfold TCPConnection.outstanding unfinished
      rw [max, queue, endSeq, una, ackNo, max', BitVec.sub_self]
      exact Nat.zero_le _
    · exact Bool.noConfusion (fin.symm.trans (fin'.symm.trans sendFin))
  unfold withSynAckReceived
  dsimp only
  split <;> exact acked ⟨rfl, rfl, rfl, rfl, rfl⟩

theorem sndMss_withSynAckReceived : (c.withSynAckReceived tcpseg sendQueue).sndMss = c.sndMss := by
  unfold withSynAckReceived
  dsimp only
  split <;> rfl

theorem established_unsent (before : c.BeforeFin) (mss : 0 < c.sndMss.toNat) :
    OnReturn (fun c' => c'.UnsentOrPast) (TCPBaseAlg.established c true) := by
  have started : { c with sndCwnd := c.sndMss }.BeforeFin := before.of_same rfl
  unfold TCPBaseAlg.established
  rw [if_pos rfl]
  refine Ensures.bind (sendData_unsent started mss _ _) ?_
  rintro ⟨sent, c'⟩ unsent
  rw [Ensures.pure_iff]
  split
  · exact unsent
  · exact unsent.of_same (finVars_sendAck c')

theorem processRst_finVars (c : TCPConnection) : OnReturn (fun r => r.2.finVars = c.finVars) c.processRst := by
  unfold processRst
  split
  · unfold processRstInSynReceived
    refine Ensures.bind (discardUpTo_endSeq _ _).mapError ?_
    intro sendQueue endSeq
    rw [Ensures.pure_iff]
    unfold finVars
    split
    all_goals
      dsimp only
      rw [← endSeq]
      rfl
  iterate 7 rfl
  iterate 4 exact True.intro

theorem SegmentReaction.finInPlace_synRcvd
    (reaction : c.SegmentReaction tcpseg r) (waits : c.fsm = .synRcvd) (unsent : c.Unsent)
    (fin : c.sendFin = false) (mss : 0 < c.sndMss.toNat) : FinInPlace (r.2.nextState r.1) r.2 := by
  have dropped {c' : TCPConnection} (same : c'.exceptDropped = c.exceptDropped)
      (sent : c'.transmissions = c.transmissions) : c'.finVars = c.finVars := by
    have vars := (congrArg (fun c : TCPConnection =>
      ((c.sndUna, c.sndNxt, c.sndMax), c.sendFin, c.sndFinSeq, c.sendQueue.endSeq)) same :)
    unfold finVars
    rw [sent]
    exact congrArg (c.transmissions, ·) vars
  cases reaction with
  | refused same _ _ sent =>
      have same := finVars_of_exceptTimers (exceptTimers_of_exceptOutput same) sent
      exact FinInPlace.of_same (.of_unclosed unsent fin) same
  | reset reset =>
      exact FinInPlace.of_same (.of_unclosed unsent fin) (c.processRst_finVars.of_ok reset)
  | unexpected => exact FinInPlace.of_same (.of_unclosed unsent fin) rfl
  | drops _ checked =>
      obtain ⟨-, same, sent⟩ := (processAck_synRcvd waits tcpseg).of_ok checked
      exact FinInPlace.of_same (.of_unclosed unsent fin) (dropped same sent)
  | @proceeds event c₁ _ _ checked processed =>
      have acked : c₁.UnsentOrPast := (processAck_unsent_synRcvd waits unsent mss).of_ok checked
      have same := (c.processAck_same tcpseg).of_ok checked
      have fin₁ : c₁.sendFin = c.sendFin := (congrArg sendFin same :)
      have unsent₁ := acked.unsent (fin₁.trans fin)
      exact FinInPlace.of_same (.of_unclosed unsent₁ (fin₁.trans fin)) (finVars_of_text processed)

theorem EarlyReaction.finInPlace (reaction : c.EarlyReaction input r) (handshake : Handshake c.fsm c)
    (unsent : c.Unsent) (fin : c.sendFin = false) (mss : 0 < c.sndMss.toNat)
    (spares : c.SparesFin input) : FinInPlace (r.2.nextState r.1) r.2 := by
  cases reaction with
  | quiet same _ _ _ sent =>
      exact FinInPlace.of_same (.of_unclosed unsent fin) (finVars_of_exceptTimers same sent)
  | listens => exact FinInPlace.of_same (.of_unclosed unsent fin) rfl
  | opens _ sent =>
      refine .of_unclosed (withSynSent_unsent (c := c) ?_ fin rfl) fin
      exact unsent.none.of_same sent
  | opensToSend listens _ sent =>
      have fits := spares.2
      rw [if_pos listens] at fits
      refine .of_unclosed (Unsent.enqueue (withSynSent_unsent (c := c) ?_ fin rfl) fin ?_) fin
      · exact unsent.none.of_same sent
      · have one : (c.clockIss + 1 - c.clockIss).toNat = 1 := by bv_omega
        change (c.clockIss + 1 - c.clockIss).toNat + _ + 1 < _
        rw [one]
        exact fits
  | enqueues waits =>
      have fits := spares.2
      have other : c.fsm ≠ .listen := by
        rcases waits with waits | waits <;> rw [waits] <;> exact nofun
      rw [if_neg other] at fits
      exact .of_unclosed (unsent.enqueue fin fits) fin
  | closes waits closes =>
      rcases processClose_cases (Or.inl waits) closes with ⟨-, rfl⟩ | ⟨-, rfl⟩
      · exact at_nextState FinInPlace (c.fsm_closing.trans waits) rfl (.closing rfl nofun fun _ => rfl)
      · rw [waits]
        exact at_nextState FinInPlace (c.fsm_queueFin.trans waits) rfl (.closing rfl nofun fun _ => rfl)
  | syn _ sent =>
      refine .of_unclosed (withSynSent_unsent (c := c) ?_ fin rfl) fin
      exact unsent.none.of_same sent
  | @synSent tcpseg _ waits reaction =>
      rw [waits] at handshake
      cases reaction with
      | ignores same _ sent =>
          have same := finVars_of_exceptTimers (exceptTimers_of_exceptOutput same) sent
          exact FinInPlace.of_same (.of_unclosed unsent fin) same
      | resets => exact FinInPlace.of_same (.of_unclosed unsent fin) rfl
      | @establishes _ sendQueue acks synAck discarded notified =>
          have before := withSynAckReceived_beforeFin unsent handshake fin
            (acks.ackNo handshake.sndNxt) discarded
          have mss' : 0 < (c.withSynAckReceived tcpseg sendQueue).sndMss.toNat := by
            rw [sndMss_withSynAckReceived]
            exact mss
          have sent := (established_unsent before mss').of_ok notified
          have advances := (TCPBaseAlg.established_returns _ _).of_ok notified
          have same := (congrArg TCPConnection.sendFin advances.same :)
          have fin' := same.trans (sendFin_withSynAckReceived.trans fin)
          exact .of_unclosed (sent.unsent fin') fin'
      | crosses _ sent =>
          refine FinInPlace.of_same (.of_unclosed unsent fin) ?_
          unfold finVars
          rw [handshake.sndNxt, handshake.sndMax]
          exact congrArg (·, (c.sndUna, c.iss + 1, c.iss + 1), c.sendFin, c.sndFinSeq,
            c.sendQueue.endSeq) sent
  | synRcvd waits reaction => exact reaction.finInPlace_synRcvd waits unsent fin mss

theorem SparesFin.atTime (spares : c.SparesFin input) (simTime : Nat) : (c.atTime simTime).SparesFin input := by
  cases input with
  | command cmd => cases cmd <;> exact spares
  | segment tcpseg => exact True.intro
  | timeout timer => exact True.intro

theorem finVars_of_exceptEntry (same : c'.exceptEntry = c.exceptEntry) : c'.finVars = c.finVars :=
  (congrArg finVars same :)

theorem handle_finInPlace (handshake : Handshake c.fsm c) (inPlace : FinInPlace c.fsm c)
    (mss : c.fsm = .closed ∨ 0 < c.sndMss.toNat) {simTime : Nat}
    (spares : c.SparesFin input) (done : c.handle simTime input = .ok c') :
    FinInPlace c'.fsm c' ∧ (c.fsm = .closeWait → c'.fsm = .lastAck ∨ c'.NoFin) := by
  by_cases closed : c.fsm = .closed
  · unfold handle at done
    rw [if_pos closed] at done
    cases done
    exact ⟨inPlace, fun waits => nomatch closed.symm.trans waits⟩
  obtain ⟨r, processed, fsm, same⟩ := handle_cases closed done
  have vars := finVars_of_exceptEntry same
  have now : FinInPlace (c.atTime simTime).fsm (c.atTime simTime) := inPlace.of_same rfl
  have mss' : 0 < (c.atTime simTime).sndMss.toNat := mss.resolve_left closed
  have spares' := spares.atTime simTime
  rw [fsm]
  cases early : opening c.fsm with
  | true =>
      have handshake' : Handshake (c.atTime simTime).fsm (c.atTime simTime) := handshake.of_same rfl
      have before : beforeClose (c.atTime simTime).fsm = true := by
        change beforeClose c.fsm = true
        revert early
        cases c.fsm <;> first | exact fun _ => rfl | nofun
      have reaction := (processInput_early handshake' early input).of_ok processed
      refine ⟨FinInPlace.of_same ?_ vars, fun waits => ?_⟩
      · exact reaction.finInPlace handshake' (now.unsent (Or.inl before)) (now.sendFin before)
          mss' spares'
      · rw [waits] at early
        cases early
  | false =>
      have reaction := (processInput_late (c := c.atTime simTime) early closed input).of_ok processed
      refine ⟨.of_same (reaction.finInPlace now early closed mss' spares') vars, fun waits => ?_⟩
      rcases reaction.closeWait waits (now.unsent (Or.inr waits)) mss' spares' with
        ⟨unsent, -⟩ | ⟨lastAck, -⟩
      · exact Or.inr (unsent.none.of_same (congrArg (·.1) vars))
      · exact Or.inl lastAck

theorem NoFin.toIP (none : c.NoFin) : ∀ tcpseg ∈ c.toIP, tcpseg.finBit = false := by
  intro tcpseg mem
  cases finBit : tcpseg.finBit with
  | false => rfl
  | true =>
      have carries : tcpseg.carries = true := by
        unfold TCPSegment.carries
        rw [finBit, Bool.or_true]
      exact finBit.symm.trans (none tcpseg (List.mem_filter.mpr ⟨mem, carries⟩))

theorem unsent_create (tcpAlgorithm : TCPAlgorithm) : (create tcpAlgorithm).Unsent :=
  have fits : (0 - 0 : BitVec 32).toNat + 1 < 2 ^ 32 := by decide
  ⟨⟨nofun, fits, Nat.le_refl _, nofun⟩, Nat.le_refl _⟩

theorem finInPlace_of_runs {tcpAlgorithm : TCPAlgorithm} {arrivals : List (Nat × TCPInput)}
    (runs : Runs step (fun c arrival => c.SparesFin arrival.2) (create tcpAlgorithm) arrivals c) :
    Handshake c.fsm c ∧ (c.fsm = .closed ∨ 0 < c.sndMss.toNat) ∧ FinInPlace c.fsm c := by
  have start : FinInPlace (create tcpAlgorithm).fsm (create tcpAlgorithm) :=
    .of_unclosed (unsent_create tcpAlgorithm) rfl
  refine invariant_of_runs (fun c => FinInPlace c.fsm c) start ?_ runs
  intro c c' simTime input handshake mss inPlace spares done
  exact (handle_finInPlace handshake inPlace mss spares done).1

/-- SEND or CLOSE -/
def endsOrExtends : TCPCommand → Bool
  | .send _ | .close => true
  | _ => false

variable {cmd : TCPCommand}

theorem processAppCommand_rejects (late : beforeClose c.fsm = false)
    (other : c.fsm ≠ .closeWait) (alive : c.fsm ≠ .closed) (command : endsOrExtends cmd = true) :
    c.processAppCommand cmd = .error .oppError := by
  cases cmd with
  | send msg =>
      unfold processAppCommand processSend
      cases fsm : c.fsm
      case closed => exact absurd fsm alive
      case closeWait => exact absurd fsm other
      case init | listen | synSent | synRcvd | established =>
        rw [fsm] at late
        cases late
      all_goals rfl
  | close =>
      unfold processAppCommand processClose
      cases fsm : c.fsm
      case closed => exact absurd fsm alive
      case closeWait => exact absurd fsm other
      case listen | synSent | synRcvd | established =>
        rw [fsm] at late
        cases late
      all_goals rfl
  | openActive | openPassive | abort | status => cases command

theorem handle_rejects (simTime : Nat) (late : beforeClose c.fsm = false)
    (other : c.fsm ≠ .closeWait) (alive : c.fsm ≠ .closed) (command : endsOrExtends cmd = true) :
    c.handle simTime (.command cmd) = .error .oppError := by
  have rejects := processAppCommand_rejects (c := c.atTime simTime) late other alive command
  have fails : (c.atTime simTime).processInput (.command cmd) = .error .oppError := rejects
  unfold handle
  rw [if_neg alive, fails]
  rfl

/-- In every run in which no SEND and no CLOSE comes while a CLOSE is deferred: the FIN comes
right after the send queue, SEND and CLOSE are errors once a CLOSE is done, and CLOSE_WAIT is left
for LAST_ACK with the step that sends the FIN. -/
theorem finInPlace_of_sparesFin {tcpAlgorithm : TCPAlgorithm} {arrivals : List (Nat × TCPInput)}
    (runs : Runs step (fun c arrival => c.SparesFin arrival.2) (create tcpAlgorithm) arrivals c) :
    (c.sendFin = true → c.sndFinSeq = c.sendQueue.bufferEndSeq) ∧
    (c.sendFin = true → c.fsm ≠ .closed → ∀ simTime cmd, endsOrExtends cmd = true →
      c.SparesFin (.command cmd) → c.handle simTime (.command cmd) = .error .oppError) ∧
    (c.fsm = .closeWait → (∀ tcpseg ∈ c.toIP, tcpseg.finBit = false) ∧
      ∀ simTime input c', c.SparesFin input → c.handle simTime input = .ok c' →
        (∃ tcpseg ∈ c'.toIP, tcpseg.finBit = true) → c'.fsm = .lastAck) := by
  obtain ⟨handshake, mss, inPlace⟩ := finInPlace_of_runs runs
  refine ⟨inPlace.finSeq, fun fin alive simTime cmd command spares => ?_, fun waits => ⟨?_, ?_⟩⟩
  · have late : beforeClose c.fsm = false := by
      rw [Bool.eq_false_iff]
      exact fun before => Bool.noConfusion (fin.symm.trans (inPlace.sendFin before))
    have other : c.fsm ≠ .closeWait := by
      intro waits
      cases cmd with
      | send msg => exact spares.1 ⟨waits, fin⟩
      | close => exact spares ⟨waits, fin⟩
      | openActive | openPassive | abort | status => cases command
    exact handle_rejects simTime late other alive command
  · exact (inPlace.unsent (Or.inr waits)).none.toIP
  · rintro simTime input c' spares done ⟨tcpseg, mem, finBit⟩
    refine ((handle_finInPlace handshake inPlace mss spares done).2 waits).resolve_right ?_
    exact fun none => Bool.noConfusion (finBit.symm.trans (none.toIP tcpseg mem))

/-- The peer closes first, and what is to be sent then takes two segments. -/
def exampleDeferred : List (Nat × TCPInput) :=
  [(0, .command (.openActive true)), (1, .segment exampleSynAck),
    (2, .segment { exampleFin 1 with sequenceNo := 501 }), (3, .command (.send ⟨"data", 16384⟩)),
    (4, .command .close)]

/-- An acknowledgement from the peer that has closed -/
def exampleAck (ackNo : BitVec 32) : TCPSegment :=
  { TCPSegment.create with sequenceNo := 502, ackNo, ackBit := true, window := 4096 }

theorem finInPlace_example : ∃ c c',
    Runs step (fun c arrival => c.SparesFin arrival.2) (create .reno) exampleDeferred c ∧
      c.fsm = .closeWait ∧ c.sndFinSeq = c.sendQueue.bufferEndSeq ∧
      c.handle 5 (.segment (exampleAck 1025)) = .ok c' ∧ c'.fsm = .lastAck := by
  have runs : Runs step (fun c arrival => c.SparesFin arrival.2) (create .reno) exampleDeferred _ :=
    .cons True.intro rfl (.cons True.intro rfl (.cons True.intro rfl (.cons ⟨by decide, by decide⟩ rfl
      (.cons (fun deferred => absurd deferred.2 (by decide)) rfl (.nil _)))))
  have holds := finInPlace_of_sparesFin runs
  refine ⟨_, _, runs, rfl, holds.1 rfl, rfl, ?_⟩
  refine (holds.2.2 rfl).2 5 (.segment (exampleAck 1025)) _ True.intro rfl ?_
  decide

/-- Three duplicate acknowledgements open the window, and a SEND after the CLOSE sends the FIN in
the middle of the queue. -/
theorem fin_out_of_place :
    ¬ ∀ tcpAlgorithm arrivals c, Runs step (fun _ _ => True) (create tcpAlgorithm) arrivals c →
      (c.sendFin = true → c.sndFinSeq = c.sendQueue.bufferEndSeq) ∧
      (c.sendFin = true → c.fsm ≠ .closed → ∀ simTime cmd, endsOrExtends cmd = true →
        c.handle simTime (.command cmd) = .error .oppError) ∧
      (c.fsm = .closeWait → ∀ tcpseg ∈ c.toIP, tcpseg.finBit = false) := by
  intro claim
  have runs : Runs step (fun _ _ => True) (create .reno)
      (exampleDeferred ++ [(5, .segment (exampleAck 1)), (6, .segment (exampleAck 1)),
        (7, .segment (exampleAck 1)), (8, .command (.send ⟨"more", 8⟩))]) _ :=
    .cons True.intro rfl (.cons True.intro rfl (.cons True.intro rfl (.cons True.intro rfl
      (.cons True.intro rfl (.cons True.intro rfl (.cons True.intro rfl (.cons True.intro rfl
        (.cons True.intro rfl (.nil _)))))))))
  have sent := (claim _ _ _ runs).2.2 rfl
  revert sent
  decide

end TCPConnection

end IPv6Suite
