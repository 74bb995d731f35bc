import IPv6Suite.TCPSendRange

namespace IPv6Suite

open Lib

/-- The data of the segment lie from `lo` up to `hi` numbers on from `first`. -/
def TCPSegment.Within (tcpseg : TCPSegment) (first : BitVec 32) (lo hi : Nat) : Prop :=
  ∃ offset, lo ≤ offset ∧ offset + tcpseg.payloadLength ≤ hi ∧
    tcpseg.sequenceNo = first + BitVec.ofNat 32 offset

namespace TCPSegment.Within

variable {tcpseg : TCPSegment} {first : BitVec 32} {lo hi m : Nat}

theorem shift (within : tcpseg.Within (first + BitVec.ofNat 32 m) lo hi) :
    tcpseg.Within first (m + lo) (m + hi) := by
  obtain ⟨offset, least, most, seq⟩ := within
  refine ⟨m + offset, by omega, by omega, ?_⟩
  rw [seq, BitVec.add_assoc, ← BitVec.ofNat_add]

theorem widen {lo' hi' : Nat} (within : tcpseg.Within first lo hi) (least : lo' ≤ lo)
    (most : hi ≤ hi') : tcpseg.Within first lo' hi' := by
  obtain ⟨offset, le, ge, seq⟩ := within
  exact ⟨offset, by omega, by omega, seq⟩

end TCPSegment.Within

namespace TCPConnection

variable {c c' c'' : TCPConnection} {m n : Nat} {segs segs' : List TCPSegment}

theorem transmissions_sendToIP (c : TCPConnection) (tcpseg : TCPSegment) :
    (c.sendToIP tcpseg).transmissions = c.transmissions ++ [tcpseg].filter TCPSegment.carries := by
  unfold transmissions sendToIP
  exact List.filter_append _ _

/-- `segs` are sent, and `snd_nxt` moves over them by `n`. -/
structure Emits (c : TCPConnection) (n : Nat) (segs : List TCPSegment) (c' : TCPConnection) : Prop
    extends Moves c c' n where
  sent : c'.transmissions = c.transmissions ++ segs
  within : ∀ tcpseg ∈ segs, tcpseg.Within c.sndNxt 0 n

theorem Emits.refl (c : TCPConnection) : c.Emits 0 [] c where
  toMoves := .refl c
  sent := (List.append_nil _).symm
  within := nofun

theorem Emits.later (first : c.Emits m segs c') (next : c'.Emits n segs' c'') {tcpseg : TCPSegment}
    (mem : tcpseg ∈ segs') : tcpseg.Within c.sndNxt m (m + n) := by
  have within := next.within tcpseg mem
  rw [first.sndNxt] at within
  exact within.shift

theorem Emits.trans (first : c.Emits m segs c') (next : c'.Emits n segs' c'') :
    c.Emits (m + n) (segs ++ segs') c'' where
  toMoves := first.toMoves.trans next.toMoves
  sent := by rw [next.sent, first.sent, List.append_assoc]
  within := by
    intro tcpseg mem
    rcases List.mem_append.mp mem with mem | mem
    · exact (first.within tcpseg mem).widen (Nat.le_refl _) (Nat.le_add_right _ _)
    · exact (first.later next mem).widen (Nat.zero_le _) (Nat.le_refl _)

theorem sendSegment_emits (c : TCPConnection) (bytes : Nat) : OnReturn
    (fun c' => ∃ n segs, c.Emits n segs c' ∧ bytes ≤ n ∧ n ≤ bytes + 1 ∧
      (0 < bytes → ∃ tcpseg, segs = [tcpseg] ∧ tcpseg.sequenceNo = c.sndNxt ∧ tcpseg.payloadLength = bytes))
    (c.sendSegment bytes) := by
  have emits {c' : TCPConnection} {n : Nat} {tcpseg : TCPSegment} (moves : c.Moves c' n)
      (toIP : c'.transmissions = c.transmissions ++ [tcpseg].filter TCPSegment.carries)
      (seq : tcpseg.sequenceNo = c.sndNxt) (length : tcpseg.payloadLength = bytes) (le : bytes ≤ n)
      (most : n ≤ bytes + 1) : ∃ n segs, c.Emits n segs c' ∧ bytes ≤ n ∧ n ≤ bytes + 1 ∧
        (0 < bytes → ∃ tcpseg, segs = [tcpseg] ∧ tcpseg.sequenceNo = c.sndNxt ∧
          tcpseg.payloadLength = bytes) := by
    refine ⟨n, _, ⟨moves, toIP, fun seg mem => ?_⟩, le, most, fun some => ⟨tcpseg, ?_, seq, length⟩⟩
    · obtain rfl := List.mem_singleton.mp (List.mem_filter.mp mem).1
      refine ⟨0, Nat.le_refl _, ?_, seq.trans (BitVec.add_zero _).symm⟩
      omega
    · refine List.filter_cons_of_pos ?_
      unfold TCPSegment.carries
      rw [length, decide_eq_true some, Bool.true_or]
  unfold sendSegment TCPVirtualDataSendQueue.createSegmentWithBytes Exec.assert
  split
  · refine Ensures.ok_bind ?_
    dsimp only
    rw [Ensures.pure_iff]
    split
    · rename_i fin
      refine emits ⟨rfl, ?_⟩ (transmissions_sendToIP _ _) rfl rfl (Nat.le_succ _) (Nat.le_refl _)
      change c.sndFinSeq + 1 = c.sndNxt + BitVec.ofNat 32 (bytes + 1)
      rw [BitVec.ofNat_add, ← BitVec.add_assoc, fin.2]
      rfl
    · exact emits ⟨rfl, rfl⟩ (transmissions_sendToIP _ _) rfl rfl (Nat.le_refl _) (Nat.le_succ _)
  · exact True.intro

theorem sendWholeSegments_emits {bytesToSend fuel : Nat} (mss : 0 < c.sndMss.toNat) : OnReturn
    (fun c' => ∃ n segs, c.Emits n segs c' ∧ n ≤ 2 * bytesToSend) (c.sendWholeSegments bytesToSend fuel) := by
  have stops : ∃ n segs, c.Emits n segs c ∧ n ≤ 2 * bytesToSend :=
    ⟨0, [], .refl c, Nat.zero_le _⟩
  induction fuel generalizing c bytesToSend with
  | zero =>
      unfold sendWholeSegments
      exact Ensures.ite (fun _ => stops) fun _ => True.intro
  | succ fuel ih =>
      unfold sendWholeSegments
      refine Ensures.ite (fun _ => stops) fun more => ?_
      refine Ensures.bind (sendSegment_emits c _) ?_
      rintro c₁ ⟨m, segs, first, -, most, -⟩
      have mss₁ : c₁.sndMss = c.sndMss := first.toMoves.sndMss
      rw [mss₁]
      refine (ih (mss₁ ▸ mss) ⟨0, [], .refl c₁, Nat.zero_le _⟩).imp ?_
      rintro c₂ ⟨n, segs', next, most'⟩
      exact ⟨m + n, segs ++ segs', first.trans next, by omega⟩

/-- New data: the first segment begins at `snd_nxt`, and the others lie behind it. -/
structure EmitsNew (c : TCPConnection) (n : Nat) (segs : List TCPSegment) (c' : TCPConnection) : Prop
    extends Emits c n segs c' where
  first : ∃ tcpseg rest lo, segs = tcpseg :: rest ∧ tcpseg.sequenceNo = c.sndNxt ∧
    0 < tcpseg.payloadLength ∧ tcpseg.payloadLength ≤ lo ∧
      ∀ seg ∈ rest, seg.Within c.sndNxt lo n

theorem sendBytes_emitsNew {bytesToSend : Nat} (some : 0 < bytesToSend) (mss : 0 < c.sndMss.toNat) :
    OnReturn (fun c' => ∃ n segs, c.EmitsNew n segs c' ∧ n ≤ 2 * bytesToSend) (c.sendBytes bytesToSend) := by
  unfold sendBytes
  refine Ensures.ite (fun _ => ?_) fun more => ?_
  · refine (sendSegment_emits c bytesToSend).imp ?_
    rintro c' ⟨n, segs, emits, -, most, single⟩
    obtain ⟨tcpseg, rfl, seq, length⟩ := single some
    refine ⟨n, [tcpseg], ⟨emits, tcpseg, [], tcpseg.payloadLength, rfl, seq, ?_, Nat.le_refl _,
      nofun⟩, by omega⟩
    omega
  · obtain ⟨fuel, rfl⟩ : ∃ fuel, bytesToSend = fuel + 1 := ⟨bytesToSend - 1, by omega⟩
    unfold sendWholeSegments
    rw [if_neg (by omega)]
    refine Ensures.bind (sendSegment_emits c _) ?_
    rintro c₁ ⟨m, segs, first, least, most, single⟩
    obtain ⟨tcpseg, rfl, seq, length⟩ := single mss
    have mss₁ : c₁.sndMss = c.sndMss := first.toMoves.sndMss
    rw [mss₁]
    refine (sendWholeSegments_emits (mss₁ ▸ mss)).imp ?_
    rintro c₂ ⟨n, rest, next, most'⟩
    refine ⟨m + n, tcpseg :: rest, ⟨first.trans next, tcpseg, rest, m, rfl, seq, ?_, ?_, ?_⟩, ?_⟩
    · omega
    · omega
    · exact fun seg mem => first.later next mem
    · omega

theorem sendBytes_emits {bytesToSend : Nat} (some : 0 < bytesToSend) (near : bytesToSend < 2 ^ 31)
    (mss : 0 < c.sndMss.toNat) : OnReturn
      (fun c' => ∃ n segs, c.EmitsNew n segs c' ∧ n ≤ bytesToSend + 1) (c.sendBytes bytesToSend) := by
  have sends := (sendBytes_returns some (by omega)).and (sendBytes_emitsNew some mss)
  refine sends.imp ?_
  rintro c' ⟨⟨n, moves, -, most⟩, n', segs, emits, few⟩
  obtain rfl : n' = n := by
    have nxt := emits.sndNxt.symm.trans moves.sndNxt
    bv_omega
  exact ⟨n', segs, emits, most⟩

/-- What is sent for the first time, from `snd_max` on and within the window; a measurement is
started if none is running. -/
structure SendsNew (c : TCPConnection) (n : Nat) (segs : List TCPSegment) (c' : TCPConnection) :
    Prop where
  same : c'.exceptSending = c.exceptSending
  sndMax : c'.sndMax = c.sndMax + BitVec.ofNat 32 n
  window : (c.sndMax - c.sndUna).toNat + n ≤ c.sndWnd.toNat + 1
  sent : c'.transmissions = c.transmissions ++ segs
  within : ∀ tcpseg ∈ segs, tcpseg.Within c.sndMax 0 n
  first : ∃ tcpseg rest lo, segs = tcpseg :: rest ∧ tcpseg.sequenceNo = c.sndMax ∧
    0 < tcpseg.payloadLength ∧ tcpseg.payloadLength ≤ lo ∧ ∀ seg ∈ rest, seg.Within c.sndMax lo n
  measured : (c'.rtseq, c'.rtseqSendtime) =
    if c.rtseqSendtime = 0 then (c.sndMax, c.simTime) else (c.rtseq, c.rtseqSendtime)

theorem dataSent_measured (c : TCPConnection) (fromseq : BitVec 32) : OnReturn
    (fun c' => ∃ rexmitCount rtseq rtseqSendtime,
      c' = { c with rexmitTimer := true, rexmitCount, rtseq, rtseqSendtime } ∧
      (rtseq, rtseqSendtime) =
        if c.rtseqSendtime = 0 then (fromseq, c.simTime) else (c.rtseq, c.rtseqSendtime))
    (TCPBaseAlg.dataSent c fromseq) := by
  obtain ⟨rexmitCount, started⟩ := TCPBaseAlg.ensureRexmitTimer_eq c
  unfold TCPBaseAlg.dataSent
  rw [started]
  by_cases idle : c.rtseqSendtime = 0
  · refine ⟨rexmitCount, fromseq, c.simTime, if_pos idle, ?_⟩
    rw [if_pos idle]
  · refine ⟨rexmitCount, c.rtseq, c.rtseqSendtime, if_neg idle, ?_⟩
    rw [if_neg idle]

theorem sendData_emits (mss : 0 < c.sndMss.toNat) (fullSegmentsOnly : Prop)
    [Decidable fullSegmentsOnly] (congestionWindow : Int) :
    OnReturn (fun r => r.2 = { c with sndNxt := c.sndMax } ∨ ∃ n segs, c.SendsNew n segs r.2)
      (c.sendData fullSegmentsOnly congestionWindow) := by
  have window := { c with sndNxt := c.sndMax }.effectiveWin_le congestionWindow
  have buffered := bytesAvailable_lt c.sendQueue c.sndMax
  unfold sendData
  dsimp only at window ⊢
  refine Ensures.ite (fun _ => Or.inl rfl) fun queued => ?_
  refine Ensures.ite (fun _ => Or.inl rfl) fun open' => ?_
  refine Ensures.ite (fun _ => Or.inl rfl) fun _ => ?_
  refine Ensures.bind (sendBytes_emits (by omega) (by omega) mss) ?_
  rintro c₁ ⟨n, segs, emits, most⟩
  refine Ensures.bind (dataSent_measured _ _) ?_
  rintro c₂ ⟨rexmitCount, rtseq, rtseqSendtime, rfl, measured⟩
  have same : c₁.exceptSending = c.exceptSending := exceptSending_of_exceptSegments emits.same
  have rtseq₁ : c₁.rtseq = c.rtseq := (congrArg TCPConnection.rtseq emits.same :)
  have sendtime₁ : c₁.rtseqSendtime = c.rtseqSendtime :=
    (congrArg TCPConnection.rtseqSendtime emits.same :)
  have simTime₁ : c₁.simTime = c.simTime := (congrArg TCPConnection.simTime emits.same :)
  refine Or.inr ⟨n, segs, same, emits.sndNxt, by omega, emits.sent, emits.within, emits.first, ?_⟩
  refine measured.trans ?_
  change (if c₁.rtseqSendtime = 0 then (c.sndMax, c₁.simTime) else (c₁.rtseq, c₁.rtseqSendtime)) = _
  rw [rtseq₁, sendtime₁, simTime₁]

/-- What is sent again lies between `snd_una` and `snd_max`. -/
structure SendsAgain (c : TCPConnection) (segs : List TCPSegment) (c' : TCPConnection) : Prop where
  same : c'.exceptSegments = c.exceptSegments
  sent : c'.transmissions = c.transmissions ++ segs
  within : ∀ tcpseg ∈ segs, tcpseg.Within c.sndUna 0 c.outstanding

theorem retransmitOneSegment_emits (c : TCPConnection) :
    OnReturn (fun c' => ∃ segs, c.SendsAgain segs c') c.retransmitOneSegment := by
  unfold retransmitOneSegment
  dsimp only
  refine Ensures.ite (fun _ => True.intro) fun some => ?_
  refine Ensures.bind (sendSegment_emits { c with sndNxt := c.sndUna } _) ?_
  rintro c₁ ⟨n, segs, emits, -, -, single⟩
  obtain ⟨tcpseg, rfl, seq, length⟩ := single (Nat.pos_of_ne_zero some)
  refine ⟨[tcpseg], emits.same, emits.sent, fun seg mem => ?_⟩
  obtain rfl := List.mem_singleton.mp mem
  refine ⟨0, Nat.le_refl _, ?_, seq.trans (BitVec.add_zero _).symm⟩
  rw [length, Nat.zero_add]
  exact Nat.min_le_right _ _

theorem sendSegment_behind {bytes : Nat} (behind : c.sndNxt = c.sendQueue.endSeq + 1)
    (short : bytes < 2 ^ 31) : c.sendSegment bytes = .error (.sendQueue .assertFailed) := by
  have outside : ¬ (seqLE c.sendQueue.beginSeq c.sndNxt ∧
      seqLE (c.sndNxt + BitVec.ofNat 32 bytes) c.sendQueue.endSeq) := by
    rintro ⟨-, inside⟩
    unfold seqLE at inside
    rw [behind] at inside
    bv_omega
  unfold sendSegment TCPVirtualDataSendQueue.createSegmentWithBytes Exec.assert
  rw [if_neg outside]
  rfl

theorem retransmitSegments_behind {bytesToSend fuel : Nat}
    (behind : c.sndNxt = c.sendQueue.endSeq + 1) (mss : c.sndMss.toNat < 2 ^ 31)
    (more : bytesToSend ≠ 0) {post : TCPConnection → Prop} :
    OnReturn post (c.retransmitSegments bytesToSend fuel) := by
  cases fuel with
  | zero =>
      unfold retransmitSegments
      rw [if_neg more]
      exact True.intro
  | succ fuel =>
      unfold retransmitSegments
      have short : min bytesToSend c.sndMss.toNat < 2 ^ 31 :=
        Nat.lt_of_le_of_lt (Nat.min_le_right _ _) mss
      dsimp only
      rw [if_neg more, sendSegment_behind behind short]
      exact True.intro

/-- If nothing is queued behind the FIN, all that is sent again was sent before. -/
theorem retransmitSegments_emits {bytesToSend fuel : Nat} (some : 0 < c.sndMss.toNat)
    (mss : c.sndMss.toNat < 2 ^ 31) (last : c.sendFin = true → c.sndFinSeq = c.sendQueue.endSeq) : OnReturn
    (fun c' => c'.exceptSegments = c.exceptSegments ∧ ∃ segs, c'.transmissions = c.transmissions ++ segs ∧
        ∀ tcpseg ∈ segs, tcpseg.Within c.sndNxt 0 bytesToSend) (c.retransmitSegments bytesToSend fuel) := by
  have stops {c : TCPConnection} {bytesToSend : Nat} : c.exceptSegments = c.exceptSegments ∧
      ∃ segs, c.transmissions = c.transmissions ++ segs ∧
        ∀ tcpseg ∈ segs, tcpseg.Within c.sndNxt 0 bytesToSend :=
    ⟨rfl, [], (List.append_nil _).symm, nofun⟩
  induction fuel generalizing c bytesToSend with
  | zero =>
      unfold retransmitSegments
      exact Ensures.ite (fun _ => stops) fun _ => True.intro
  | succ fuel ih =>
      unfold retransmitSegments
      refine Ensures.ite (fun _ => stops) fun more => ?_
      have bytes : 0 < min bytesToSend c.sndMss.toNat := by omega
      refine Ensures.bind ((sendSegment_emits c _).and (sendSegment_returns c _)) ?_
      rintro c₁ ⟨⟨n, segs, emits, -, -, single⟩, same, nxt⟩
      obtain ⟨tcpseg, rfl, seq, length⟩ := single bytes
      have first : tcpseg.Within c.sndNxt 0 (min bytesToSend c.sndMss.toNat) :=
        ⟨0, Nat.le_refl _, by omega, seq.trans (BitVec.add_zero _).symm⟩
      have mss₁ : c₁.sndMss = c.sndMss := (congrArg TCPConnection.sndMss same :)
      have queue : c₁.sendQueue = c.sendQueue := (congrArg TCPConnection.sendQueue same :)
      have fin₁ : c₁.sendFin = c.sendFin := (congrArg TCPConnection.sendFin same :)
      have finSeq₁ : c₁.sndFinSeq = c.sndFinSeq := (congrArg TCPConnection.sndFinSeq same :)
      unfold nxtAfter at nxt
      dsimp only at nxt
      split at nxt
      · rename_i fin
        have behind : c₁.sndNxt = c₁.sendQueue.endSeq + 1 := by
          rw [nxt, fin.2, last fin.1, queue]
        by_cases all : bytesToSend - min bytesToSend c.sndMss.toNat = 0
        · rw [all, retransmitSegments_zero]
          refine ⟨same, [tcpseg], emits.sent, fun seg mem => ?_⟩
          obtain rfl := List.mem_singleton.mp mem
          exact first.widen (Nat.le_refl _) (Nat.min_le_left _ _)
        · exact retransmitSegments_behind behind (mss₁ ▸ mss) all
      · have last₁ : c₁.sendFin = true → c₁.sndFinSeq = c₁.sendQueue.endSeq := by
          rw [fin₁, finSeq₁, queue]
          exact last
        refine (ih (mss₁ ▸ some) (mss₁ ▸ mss) last₁).imp ?_
        rintro c₂ ⟨further, rest, sent, within⟩
        refine ⟨further.trans same, tcpseg :: rest, ?_, ?_⟩
        · rw [sent, emits.sent, List.append_assoc]
          rfl
        · intro seg mem
          rcases List.mem_cons.mp mem with rfl | mem
          · exact first.widen (Nat.le_refl _) (Nat.min_le_left _ _)
          · have later := within seg mem
            rw [nxt] at later
            exact later.shift.widen (Nat.zero_le _) (by omega)

theorem retransmitData_emits (some : 0 < c.sndMss.toNat) (mss : c.sndMss.toNat < 2 ^ 31)
    (last : c.sendFin = true → c.sndFinSeq = c.sendQueue.endSeq) :
    OnReturn (fun c' => ∃ segs, c.SendsAgain segs c') c.retransmitData := by
  unfold retransmitData
  dsimp only
  refine Ensures.ite (fun _ => True.intro) fun _ => ?_
  refine (retransmitSegments_emits (c := { c with sndNxt := c.sndUna }) some mss last).imp ?_
  rintro c' ⟨same, segs, sent, within⟩
  exact ⟨segs, same, sent, within⟩

end TCPConnection

end IPv6Suite
