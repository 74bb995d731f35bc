import IPv6Suite.TCPDeferredFin
import IPv6Suite.TCPRexmitTimer
import IPv6Suite.TCPTransmissions

namespace IPv6Suite

open Lib

/-- The data of a segment, as places in the stream of bytes, and the time at which it was sent -/
structure Transmission where
  time : Nat
  first : Nat
  length : Nat

namespace Transmission

def covers (t : Transmission) (place : Nat) : Bool :=
  decide (t.first ≤ place) && decide (place < t.first + t.length)

def timesSent (sent : List Transmission) (place : Nat) : List Nat :=
  (sent.filter fun t => t.covers place).map time

variable {sent sent' : List Transmission} {place : Nat}

theorem timesSent_append : timesSent (sent ++ sent') place = timesSent sent place ++ timesSent sent' place := by
  unfold timesSent
  rw [List.filter_append, List.map_append]

theorem timesSent_none (none : ∀ t ∈ sent, t.covers place = false) : timesSent sent place = [] := by
  unfold timesSent
  rw [List.filter_eq_nil_iff.mpr fun t mem => Bool.eq_false_iff.mp (none t mem)]
  rfl

theorem timesSent_cons {t : Transmission} (covered : t.covers place = true) :
    timesSent (t :: sent) place = t.time :: timesSent sent place := by
  unfold timesSent
  simp only [covered, List.filter_cons_of_pos, List.map_cons]

theorem covers_before {t : Transmission} (before : t.first + t.length ≤ place) : t.covers place = false := by
  unfold covers
  rw [decide_eq_false (p := place < t.first + t.length) (by omega), Bool.and_false]

theorem covers_behind {t : Transmission} (behind : place < t.first) : t.covers place = false := by
  unfold covers
  rw [decide_eq_false (p := t.first ≤ place) (by omega), Bool.false_and]

end Transmission

namespace TCPConnection

open Transmission (timesSent)

variable {c c' c'' : TCPConnection} {tcpseg : TCPSegment} {segs : List TCPSegment}
variable {acked : Nat} {sent : List Transmission}

/-- The place of a sequence number in the stream, of which `acked` numbers are acknowledged -/
def place (c : TCPConnection) (acked : Nat) (seq : BitVec 32) : Nat := acked + (seq - c.sndUna).toNat

def transmission (c : TCPConnection) (acked : Nat) (tcpseg : TCPSegment) : Transmission where
  time := c.simTime
  first := c.place acked tcpseg.sequenceNo
  length := tcpseg.payloadLength

/-- Nothing was sent beyond `snd_max`, and the byte at `rtseq` was sent once, at
`rtseq_sendtime`. -/
structure Karn (acked : Nat) (sent : List Transmission) (c : TCPConnection) : Prop where
  before : ∀ t ∈ sent, t.first + t.length ≤ acked + c.outstanding
  measured : c.rtseqSendtime ≠ 0 → (c.rtseq - c.sndUna).toNat < c.outstanding ∧
    timesSent sent (c.place acked c.rtseq) = [c.rtseqSendtime]

/-- Without an acknowledgement Karn's rule is kept from `c` to `c'`. -/
def SendsByKarn (c c' : TCPConnection) : Prop :=
  c'.sndUna = c.sndUna ∧ c'.simTime = c.simTime ∧ ∃ segs, c'.transmissions = c.transmissions ++ segs ∧
    ∀ acked sent, Karn acked sent c → Karn acked (sent ++ segs.map (c'.transmission acked)) c'

/-- Karn's rule is kept from `c` to `c'`. -/
def KeepsKarn (c c' : TCPConnection) : Prop :=
  ∃ segs, c'.transmissions = c.transmissions ++ segs ∧ ∀ acked sent, Karn acked sent c →
    let acked' := acked + (c'.sndUna - c.sndUna).toNat
    Karn acked' (sent ++ segs.map (c'.transmission acked')) c'

theorem transmission_of_same (simTime : c'.simTime = c.simTime) (una : c'.sndUna = c.sndUna)
    (acked : Nat) : c'.transmission acked = c.transmission acked := by
  funext tcpseg
  unfold transmission place
  rw [simTime, una]

theorem SendsByKarn.keeps (sends : SendsByKarn c c') : KeepsKarn c c' := by
  obtain ⟨una, -, segs, sent, keeps⟩ := sends
  refine ⟨segs, sent, fun acked sent' karn => ?_⟩
  rw [una, BitVec.sub_self]
  exact keeps acked sent' karn

theorem KeepsKarn.sends (keeps : KeepsKarn c c') (sends : SendsByKarn c' c'') : KeepsKarn c c'' := by
  obtain ⟨segs, sent, karn⟩ := keeps
  obtain ⟨una, simTime, segs', sent', karn'⟩ := sends
  refine ⟨segs ++ segs', ?_, fun acked sent₀ holds => ?_⟩
  · rw [sent', sent, List.append_assoc]
  · have next := karn' _ _ (karn acked sent₀ holds)
    rw [← transmission_of_same simTime una] at next
    dsimp only
    rw [una, List.map_append, ← List.append_assoc]
    exact next

theorem SendsByKarn.trans (first : SendsByKarn c c') (next : SendsByKarn c' c'') : SendsByKarn c c'' := by
  obtain ⟨una, simTime, segs, sent, karn⟩ := first
  obtain ⟨una', simTime', segs', sent', karn'⟩ := next
  refine ⟨una'.trans una, simTime'.trans simTime, segs ++ segs', ?_, fun acked sent₀ holds => ?_⟩
  · rw [sent', sent, List.append_assoc]
  · have last := karn' acked _ (karn acked sent₀ holds)
    rw [← transmission_of_same simTime' una'] at last
    rw [List.map_append, ← List.append_assoc]
    exact last

/-- Nothing is sent, and the measurement runs on or ends. -/
theorem SendsByKarn.of_same (vars : (c'.simTime, c'.transmissions, c'.sndUna, c'.sndMax) =
      (c.simTime, c.transmissions, c.sndUna, c.sndMax))
    (running : c'.rtseqSendtime ≠ 0 → c'.rtseq = c.rtseq ∧ c'.rtseqSendtime = c.rtseqSendtime) :
    SendsByKarn c c' := by
  simp only [Prod.mk.injEq] at vars
  obtain ⟨simTime, transmissions, una, max⟩ := vars
  have outstanding' : c'.outstanding = c.outstanding := by
    unfold outstanding
    rw [una, max]
  refine ⟨una, simTime, [], transmissions.trans (List.append_nil _).symm, fun acked sent karn => ?_⟩
  rw [List.map_nil, List.append_nil]
  refine ⟨?_, fun runs => ?_⟩
  · rw [outstanding']
    exact karn.before
  · obtain ⟨rtseq, sendtime⟩ := running runs
    unfold place
    rw [outstanding', rtseq, sendtime, una]
    rw [sendtime] at runs
    exact karn.measured runs

theorem SendsAgain.karn (again : c.SendsAgain segs c')
    (vars : (c''.simTime, c''.transmissions, c''.sndUna, c''.sndMax) =
      (c'.simTime, c'.transmissions, c'.sndUna, c'.sndMax)) (off : c''.rtseqSendtime = 0) : SendsByKarn c c'' := by
  simp only [Prod.mk.injEq] at vars
  obtain ⟨simTime, transmissions, una, max⟩ := vars
  have simTime' : c''.simTime = c.simTime :=
    simTime.trans (congrArg TCPConnection.simTime again.same :)
  have una' : c''.sndUna = c.sndUna := una.trans (congrArg TCPConnection.sndUna again.same :)
  have max' : c''.sndMax = c.sndMax := max.trans (congrArg TCPConnection.sndMax again.same :)
  have outstanding' : c''.outstanding = c.outstanding := by
    unfold outstanding
    rw [una', max']
  refine ⟨una', simTime', segs, transmissions.trans again.sent, fun acked sent karn => ⟨?_, ?_⟩⟩
  · intro t mem
    rw [outstanding']
    rcases List.mem_append.mp mem with mem | mem
    · exact karn.before t mem
    · obtain ⟨tcpseg, repeated, rfl⟩ := List.mem_map.mp mem
      obtain ⟨offset, -, most, seq⟩ := again.within tcpseg repeated
      have small : c.outstanding < 2 ^ 32 := BitVec.isLt _
      unfold transmission place
      dsimp only
      rw [una', seq]
      bv_omega
  · exact fun runs => absurd off runs

theorem place_new {n offset : Nat} (una : c'.sndUna = c.sndUna)
    (room : c.outstanding + n < 2 ^ 32) (within : offset ≤ n) (acked : Nat) :
    c'.place acked (c.sndMax + BitVec.ofNat 32 offset) = acked + c.outstanding + offset := by
  unfold place outstanding at *
  rw [una]
  bv_omega

/-- New data start a measurement at their first byte, or one runs on. -/
theorem SendsNew.karn {n : Nat} (new : c.SendsNew n segs c') (narrow : NarrowWindow c.sndWnd) :
    SendsByKarn c c' := by
  obtain ⟨same, max, window, sent, within, first, measured⟩ := new
  have una : c'.sndUna = c.sndUna := (congrArg TCPConnection.sndUna same :)
  have simTime : c'.simTime = c.simTime := (congrArg TCPConnection.simTime same :)
  have room : c.outstanding + n < 2 ^ 32 := by
    unfold NarrowWindow at narrow
    change (c.sndMax - c.sndUna).toNat + n < 2 ^ 32
    omega
  have more : c'.outstanding = c.outstanding + n := by
    unfold outstanding at *
    rw [una, max]
    bv_omega
  refine ⟨una, simTime, segs, sent, fun acked sent₀ karn => ⟨?_, fun runs => ?_⟩⟩
  · intro t mem
    rw [more]
    rcases List.mem_append.mp mem with mem | mem
    · have le := karn.before t mem
      omega
    · obtain ⟨tcpseg, fresh, rfl⟩ := List.mem_map.mp mem
      obtain ⟨offset, -, most, seq⟩ := within tcpseg fresh
      unfold transmission
      dsimp only
      rw [seq, place_new una room (by omega)]
      omega
  · have behind {p lo : Nat} (rest : List TCPSegment)
        (later : ∀ seg ∈ rest, seg.Within c.sndMax lo n) (before : p < acked + c.outstanding + lo) :
        timesSent (rest.map (c'.transmission acked)) p = [] := by
      refine Transmission.timesSent_none fun t mem => ?_
      obtain ⟨tcpseg, fresh, rfl⟩ := List.mem_map.mp mem
      obtain ⟨offset, least, most, seq⟩ := later tcpseg fresh
      refine Transmission.covers_behind ?_
      unfold transmission
      dsimp only
      rw [seq, place_new una room (by omega)]
      omega
    by_cases idle : c.rtseqSendtime = 0
    · rw [if_pos idle, Prod.mk.injEq] at measured
      obtain ⟨rtseq, sendtime⟩ := measured
      obtain ⟨tcpseg, rest, lo, rfl, seq, some, le, later⟩ := first
      have start : c'.place acked c'.rtseq = acked + c.outstanding := by
        unfold place outstanding
        rw [rtseq, una]
      have fits : n > 0 := by
        obtain ⟨offset, -, most, -⟩ := within tcpseg List.mem_cons_self
        omega
      have here : (c'.rtseq - c'.sndUna).toNat = c.outstanding := by
        unfold outstanding
        rw [rtseq, una]
      refine ⟨by omega, ?_⟩
      have old : timesSent sent₀ (acked + c.outstanding) = [] :=
        Transmission.timesSent_none fun t mem => Transmission.covers_before (karn.before t mem)
      have covered : (c'.transmission acked tcpseg).covers (acked + c.outstanding) = true := by
        have first : (c'.transmission acked tcpseg).first = acked + c.outstanding := by
          unfold transmission place outstanding
          dsimp only
          rw [seq, una]
        unfold Transmission.covers
        rw [first, decide_eq_true (Nat.le_refl _), decide_eq_true (by
          change _ < _ + tcpseg.payloadLength
          omega)]
        rfl
      have others := behind rest later (p := acked + c.outstanding) (by omega)
      rw [start, Transmission.timesSent_append, old, List.map_cons,
        Transmission.timesSent_cons covered, others, sendtime, ← simTime]
      rfl
    · rw [if_neg idle, Prod.mk.injEq] at measured
      obtain ⟨rtseq, sendtime⟩ := measured
      have ⟨inside, once⟩ := karn.measured idle
      have same : c'.place acked c'.rtseq = c.place acked c.rtseq := by
        unfold place
        rw [rtseq, una]
      have inside' : (c'.rtseq - c'.sndUna).toNat < c.outstanding := by
        rw [rtseq, una]
        exact inside
      refine ⟨by omega, ?_⟩
      have others := behind segs within (p := c.place acked c.rtseq) (by
        unfold place
        omega)
      rw [same, sendtime, Transmission.timesSent_append, once, others]
      rfl

theorem sendCommandInvoked_karn (mss : 0 < c.sndMss.toNat) (narrow : NarrowWindow c.sndWnd) :
    OnReturn (fun c' => SendsByKarn c c') (TCPBaseAlg.sendCommandInvoked c) := by
  refine Ensures.bind (c.sendData_emits mss _ _) ?_
  rintro ⟨_, c'⟩ (same | ⟨n, segs, new⟩)
  · have same : c' = { c with sndNxt := c.sndMax } := same
    rw [same]
    exact .of_same rfl fun _ => ⟨rfl, rfl⟩
  · exact new.karn narrow

theorem sendFinNow_karn (room : c.HasRoom) : SendsByKarn c c.sendFinNow := by
  have more : c.sendFinNow.outstanding = c.outstanding + 1 := by
    have max : c.sendFinNow.sndMax = c.sndMax + 1 := rfl
    have una : c.sendFinNow.sndUna = c.sndUna := rfl
    unfold HasRoom at room
    unfold outstanding
    rw [max, una]
    bv_omega
  refine ⟨rfl, rfl, _, transmissions_sendToIP { c with sndNxt := c.sndMax } _, fun acked sent karn => ?_⟩
  have empty : ∀ t ∈ ([{ TCPSegment.create with
      finBit := true, ackBit := true, ackNo := c.rcvNxt, sequenceNo := c.sndMax, window := c.rcvWnd }
      ].filter TCPSegment.carries).map (c.sendFinNow.transmission acked),
      t.first = acked + c.outstanding ∧ t.length = 0 := by
    intro t mem
    obtain ⟨tcpseg, sent, rfl⟩ := List.mem_map.mp mem
    obtain rfl := List.mem_singleton.mp (List.mem_filter.mp sent).1
    exact ⟨rfl, rfl⟩
  refine ⟨fun t mem => ?_, fun runs => ?_⟩
  · rw [more]
    rcases List.mem_append.mp mem with mem | mem
    · have le := karn.before t mem
      omega
    · have ⟨first, length⟩ := empty t mem
      omega
  · obtain ⟨inside, once⟩ := karn.measured runs
    refine ⟨Nat.lt_of_lt_of_le inside (by omega), ?_⟩
    have behind : timesSent _ (c.place acked c.rtseq) = [] :=
      Transmission.timesSent_none fun t mem => by
        have ⟨first, length⟩ := empty t mem
        refine Transmission.covers_behind ?_
        unfold place
        omega
    refine Transmission.timesSent_append.trans ?_
    change timesSent sent (c.place acked c.rtseq) ++ timesSent _ (c.place acked c.rtseq) = _
    rw [once, behind]
    rfl

/-- Retransmissions end the measurement. -/
theorem receivedDuplicateAck_karn (c : TCPConnection) :
    OnReturn (fun c' => SendsByKarn c c') (TCPAlgorithm.receivedDuplicateAck c) := by
  have quiet : SendsByKarn c c := .of_same rfl fun _ => ⟨rfl, rfl⟩
  unfold TCPAlgorithm.receivedDuplicateAck
  split
  · unfold TCPTahoe.receivedDuplicateAck
    refine Ensures.ite (fun _ => ?_) fun _ => quiet
    refine Ensures.bind c.retransmitOneSegment_emits ?_
    rintro c₁ ⟨segs, again⟩
    rw [TCPAlgorithm.restartRexmitTimer_eq]
    exact again.karn rfl rfl
  · unfold TCPReno.receivedDuplicateAck
    refine Ensures.ite (fun _ => ?_) fun _ => ?_
    · refine Ensures.bind c.retransmitOneSegment_emits ?_
      rintro c₁ ⟨segs, again⟩
      rw [TCPAlgorithm.restartRexmitTimer_eq]
      exact again.karn rfl rfl
    · rw [Ensures.ok_iff]
      split
      · exact .of_same rfl fun _ => ⟨rfl, rfl⟩
      · exact quiet
  · exact quiet

/-- What Reno sends again on a time-out was sent before. -/
def FinLast (c : TCPConnection) : Prop :=
  c.tcpAlgorithm = .reno → c.sendFin = true → c.sndFinSeq = c.sendQueue.bufferEndSeq

theorem processRexmitTimer_base_karn (c : TCPConnection) : OnReturn
    (fun r => SendsByKarn c r.2 ∧ (r.1 ≠ .abort → r.2.rtseqSendtime = 0) ∧
      (r.2.sndMss, r.2.sendFin, r.2.sndFinSeq, r.2.sendQueue) = (c.sndMss, c.sendFin, c.sndFinSeq, c.sendQueue))
    (TCPBaseAlg.processRexmitTimer c) := by
  unfold TCPBaseAlg.processRexmitTimer scheduleTimeout
  refine Ensures.ite (fun _ => ?_) fun _ => ?_
  · exact ⟨.of_same rfl fun _ => ⟨rfl, rfl⟩, fun given => absurd rfl given, rfl⟩
  · split
    · exact True.intro
    · exact ⟨.of_same rfl fun runs => absurd rfl runs, fun _ => rfl, rfl⟩

theorem processRexmitTimer_karn (some : 0 < c.sndMss.toNat) (mss : c.sndMss.toNat < 2 ^ 31)
    (last : c.FinLast) : OnReturn (fun r => SendsByKarn c r.2) (TCPAlgorithm.processRexmitTimer c) := by
  unfold FinLast at last
  unfold TCPAlgorithm.processRexmitTimer
  split
  · refine Ensures.bind c.processRexmitTimer_base_karn ?_
    rintro r ⟨first, off, -⟩
    refine Ensures.ite (fun _ => first) fun goesOn => ?_
    refine Ensures.bind (retransmitOneSegment_emits _) ?_
    rintro c' ⟨segs, again⟩
    have sendtime := (congrArg TCPConnection.rtseqSendtime again.same :)
    simp only [TCPTahoeRenoFamily.recalculateSlowStartThreshold] at sendtime
    have resends : SendsByKarn _ c' := again.karn rfl (sendtime.trans (off goesOn))
    refine first.trans (.trans ?_ resends)
    exact .of_same rfl fun _ => ⟨rfl, rfl⟩
  · rename_i reno
    refine Ensures.bind c.processRexmitTimer_base_karn ?_
    rintro r ⟨first, off, same⟩
    simp only [Prod.mk.injEq] at same
    obtain ⟨mss', fin, finSeq, queue⟩ := same
    refine Ensures.ite (fun _ => first) fun goesOn => ?_
    refine Ensures.bind (retransmitData_emits ?_ ?_ ?_) ?_
    · exact mss' ▸ some
    · exact mss' ▸ mss
    · intro sendFin
      exact finSeq.trans ((last reno (fin.symm.trans sendFin)).trans (congrArg _ queue.symm))
    · rintro c' ⟨segs, again⟩
      have sendtime := (congrArg TCPConnection.rtseqSendtime again.same :)
      simp only [TCPTahoeRenoFamily.recalculateSlowStartThreshold] at sendtime
      have resends : SendsByKarn _ c' := again.karn rfl (sendtime.trans (off goesOn))
      refine first.trans (.trans ?_ resends)
      exact .of_same rfl fun _ => ⟨rfl, rfl⟩
  · refine Ensures.bind c.processRexmitTimer_base_karn ?_
    rintro r ⟨first, off, -⟩
    refine Ensures.ite (fun _ => first) fun goesOn => ?_
    refine Ensures.bind (retransmitOneSegment_emits _) ?_
    rintro c' ⟨segs, again⟩
    refine first.trans (again.karn rfl ?_)
    exact (congrArg TCPConnection.rtseqSendtime again.same :).trans (off goesOn)

/-- A measurement that runs on is of a byte that is not acknowledged. -/
theorem receivedDataAck_measured (c : TCPConnection) : OnReturn (fun c' => ∃ rexmitTimer rexmitCount rtseqSendtime,
      c' = { c with rexmitTimer, rexmitCount, rtseqSendtime } ∧
      (rtseqSendtime ≠ 0 → rtseqSendtime = c.rtseqSendtime ∧ ¬ seqLess c.rtseq c.sndUna))
    (TCPBaseAlg.receivedDataAck c) := by
  have measured : OnReturn (fun c' => ∃ rtseqSendtime,
      c' = { c with rexmitTimer := false, rtseqSendtime } ∧
        (rtseqSendtime ≠ 0 → rtseqSendtime = c.rtseqSendtime ∧ ¬ seqLess c.rtseq c.sndUna))
      (TCPBaseAlg.measureRtt { c with rexmitTimer := false }) := by
    unfold TCPBaseAlg.measureRtt
    refine Ensures.ite (fun _ => ?_) fun runs => ?_
    · exact Ensures.bind Ensures.trivial fun _ _ => ⟨0, rfl, fun running => absurd rfl running⟩
    · exact ⟨c.rtseqSendtime, rfl, fun running => ⟨rfl, fun acked => runs ⟨running, acked⟩⟩⟩
  unfold TCPBaseAlg.receivedDataAck
  refine Ensures.bind measured ?_
  rintro c₁ ⟨rtseqSendtime, rfl, running⟩
  refine Ensures.ite (fun _ => ?_) fun _ => ?_
  · exact ⟨false, c.rexmitCount, rtseqSendtime, rfl, running⟩
  · exact ⟨true, 0, rtseqSendtime, rfl, running⟩

/-- An acknowledgement takes numbers from the front of what is outstanding. -/
theorem acked_karn {tcpseg : TCPSegment} (new : c.AcksNew tcpseg) (near : (tcpseg.ackNo - c.sndUna).toNat ≠ 2 ^ 31)
    (vars : (c'.transmissions, c'.sndUna, c'.sndMax) = (c.transmissions, tcpseg.ackNo, c.sndMax))
    (running : c'.rtseqSendtime ≠ 0 → c'.rtseqSendtime = c.rtseqSendtime ∧ c'.rtseq = c.rtseq ∧
      ¬ seqLess c.rtseq tcpseg.ackNo) : KeepsKarn c c' := by
  simp only [Prod.mk.injEq] at vars
  obtain ⟨transmissions, una, max⟩ := vars
  obtain ⟨some, le⟩ := new.outstanding
  have less : c'.outstanding = c.outstanding - (tcpseg.ackNo - c.sndUna).toNat := by
    unfold outstanding at *
    rw [una, max]
    bv_omega
  refine ⟨[], transmissions.trans (List.append_nil _).symm, fun acked sent karn => ?_⟩
  dsimp only
  rw [una, List.map_nil, List.append_nil]
  refine ⟨fun t mem => ?_, fun runs => ?_⟩
  · have le' := karn.before t mem
    rw [less]
    omega
  · obtain ⟨sendtime, rtseq, behind⟩ := running runs
    have ⟨inside, once⟩ := karn.measured (sendtime ▸ runs)
    have front : (tcpseg.ackNo - c.sndUna).toNat ≤ (c.rtseq - c.sndUna).toNat := by
      have half := new.1
      unfold seqGE at half
      unfold seqLess at behind
      bv_omega
    have rest : (c.rtseq - tcpseg.ackNo).toNat =
        (c.rtseq - c.sndUna).toNat - (tcpseg.ackNo - c.sndUna).toNat := by
      bv_omega
    have same : c'.place (acked + (tcpseg.ackNo - c.sndUna).toNat) c'.rtseq = c.place acked c.rtseq := by
      unfold place
      rw [una, rtseq, rest]
      omega
    rw [same, sendtime, una, rtseq, rest, less]
    exact ⟨by omega, once⟩

theorem receivedDataAck_karn (mss : 0 < c.sndMss.toNat) (narrow : NarrowWindow c.sndWnd) : OnReturn
    (fun c' => ∃ rexmitTimer rexmitCount rtseqSendtime,
      SendsByKarn { c with rexmitTimer, rexmitCount, rtseqSendtime } c' ∧
      (rtseqSendtime ≠ 0 → rtseqSendtime = c.rtseqSendtime ∧ ¬ seqLess c.rtseq c.sndUna))
    (TCPAlgorithm.receivedDataAck c) := by
  have sends {c₁ c₂ : TCPConnection} (vars : (c₂.simTime, c₂.transmissions, c₂.sndUna, c₂.sndMax,
      c₂.rtseq, c₂.rtseqSendtime, c₂.sndMss, c₂.sndWnd) = (c₁.simTime, c₁.transmissions, c₁.sndUna,
        c₁.sndMax, c₁.rtseq, c₁.rtseqSendtime, c.sndMss, c.sndWnd)) :
      OnReturn (fun c' => SendsByKarn c₁ c') (TCPBaseAlg.sendCommandInvoked c₂) := by
    simp only [Prod.mk.injEq] at vars
    obtain ⟨simTime, transmissions, una, max, rtseq, sendtime, mss', wnd⟩ := vars
    have same : SendsByKarn c₁ c₂ := by
      refine .of_same ?_ fun _ => ⟨rtseq, sendtime⟩
      rw [simTime, transmissions, una, max]
    refine (sendCommandInvoked_karn (mss' ▸ mss) (wnd ▸ narrow)).imp fun c' sent => ?_
    exact same.trans sent
  unfold TCPAlgorithm.receivedDataAck
  split
  · refine Ensures.bind c.receivedDataAck_measured ?_
    rintro c₁ ⟨rexmitTimer, rexmitCount, rtseqSendtime, rfl, running⟩
    refine Ensures.imp (sends ?_) fun c' sent =>
      ⟨rexmitTimer, rexmitCount, rtseqSendtime, sent, running⟩
    unfold TCPTahoeRenoFamily.increaseCwnd
    split <;> rfl
  · refine Ensures.bind c.receivedDataAck_measured ?_
    rintro c₁ ⟨rexmitTimer, rexmitCount, rtseqSendtime, rfl, running⟩
    refine Ensures.imp (sends ?_) fun c' sent =>
      ⟨rexmitTimer, rexmitCount, rtseqSendtime, sent, running⟩
    unfold TCPTahoeRenoFamily.increaseCwnd
    split
    · rfl
    · split <;> rfl
  · refine Ensures.bind c.receivedDataAck_measured ?_
    rintro c₁ ⟨rexmitTimer, rexmitCount, rtseqSendtime, rfl, running⟩
    exact Ensures.imp (sends rfl) fun c' sent =>
      ⟨rexmitTimer, rexmitCount, rtseqSendtime, sent, running⟩

theorem acceptAck_measurement (c : TCPConnection) (tcpseg : TCPSegment) : OnReturn
    (fun c' => (c'.transmissions, c'.rtseq, c'.rtseqSendtime) =
      (c.transmissions, c.rtseq, c.rtseqSendtime)) (c.acceptAck tcpseg) := by
  unfold acceptAck
  refine Ensures.bind Ensures.trivial fun sendQueue _ => ?_
  rw [Ensures.pure_iff]
  split
  all_goals split <;> rfl

theorem processAckInEstabEtc_karn {tcpseg : TCPSegment} (mss : 0 < c.sndMss.toNat)
    (narrow : NarrowWindow c.sndWnd) (window : NarrowWindow tcpseg.window)
    (near : (tcpseg.ackNo - c.sndUna).toNat ≠ 2 ^ 31) :
    OnReturn (fun r => KeepsKarn c r.2) (c.processAckInEstabEtc tcpseg) := by
  have quiet {c' : TCPConnection} (same : (c'.simTime, c'.transmissions, c'.sndUna, c'.sndMax,
      c'.rtseq, c'.rtseqSendtime) = (c.simTime, c.transmissions, c.sndUna, c.sndMax, c.rtseq,
        c.rtseqSendtime)) : SendsByKarn c c' := by
    simp only [Prod.mk.injEq] at same
    obtain ⟨simTime, transmissions, una, max, rtseq, sendtime⟩ := same
    refine .of_same ?_ fun _ => ⟨rtseq, sendtime⟩
    rw [simTime, transmissions, una, max]
  unfold processAckInEstabEtc
  refine Ensures.ite (fun old => ?_) fun above => ?_
  · refine Ensures.ite (fun _ => ?_) fun _ => SendsByKarn.keeps (quiet rfl)
    refine Ensures.bind (receivedDuplicateAck_karn _) fun c' again => ?_
    have counted : SendsByKarn c { c with dupacks := c.dupacks + 1 } := quiet rfl
    exact (counted.trans again).keeps
  · refine Ensures.ite (fun within => ?_) fun _ => ?_
    · refine Ensures.bind ((acceptAck_returns c tcpseg).and (acceptAck_measurement c tcpseg)) ?_
      rintro c₁ ⟨⟨same, una, max, wnd⟩, measured⟩
      simp only [Prod.mk.injEq] at measured
      obtain ⟨transmissions, rtseq₁, sendtime₁⟩ := measured
      have wide : NarrowWindow c₁.sndWnd := by
        rcases wnd with kept | updated
        · exact kept ▸ narrow
        · exact updated ▸ window
      have mss₁ : c₁.sndMss = c.sndMss := (congrArg TCPConnection.sndMss same :)
      refine Ensures.bind (receivedDataAck_karn (mss₁ ▸ mss) wide) ?_
      rintro c₂ ⟨rexmitTimer, rexmitCount, rtseqSendtime, sends, running⟩
      have acked : KeepsKarn c { c₁ with rexmitTimer, rexmitCount, rtseqSendtime } := by
        refine acked_karn ⟨above, within⟩ near ?_ fun runs => ?_
        · exact congr (congrArg Prod.mk transmissions) (congr (congrArg Prod.mk una) max)
        · obtain ⟨sendtime, behind⟩ := running runs
          rw [rtseq₁, una] at behind
          exact ⟨sendtime.trans sendtime₁, rtseq₁, behind⟩
      exact (acked.sends sends).sends (.of_same rfl fun _ => ⟨rfl, rfl⟩)
    · refine Ensures.bind Ensures.trivial fun _ _ => ?_
      refine (quiet ?_).keeps
      have sent := c.transmissions_sendAck
      exact congrArg (fun t => (c.simTime, t, c.sndUna, c.sndMax, c.rtseq, c.rtseqSendtime)) sent

/-- Karn's rule is kept, and numbers are left for a FIN. -/
structure Keeps (c c' : TCPConnection) : Prop where
  karn : KeepsKarn c c'
  narrow : NarrowWindow c'.sndWnd
  hasRoom : c.HasRoom → c'.HasRoom

/-- All that the two are about -/
def karnVars (c : TCPConnection) :
    Nat × BitVec 32 × BitVec 32 × BitVec 32 × BitVec 32 × Nat :=
  (c.simTime, c.sndUna, c.sndMax, c.sndWnd, c.rtseq, c.rtseqSendtime)

theorem SendsByKarn.of_vars (vars : c'.karnVars = c.karnVars)
    (sent : c'.transmissions = c.transmissions) : SendsByKarn c c' := by
  unfold karnVars at vars
  simp only [Prod.mk.injEq] at vars
  obtain ⟨simTime, una, max, -, rtseq, sendtime⟩ := vars
  refine .of_same ?_ fun _ => ⟨rtseq, sendtime⟩
  rw [simTime, sent, una, max]

theorem HasRoom.of_karnVars (room : c.HasRoom) (vars : c'.karnVars = c.karnVars) : c'.HasRoom := by
  unfold karnVars at vars
  simp only [Prod.mk.injEq] at vars
  obtain ⟨-, una, max, -⟩ := vars
  unfold HasRoom at *
  rw [una, max]
  exact room

theorem Keeps.same (keeps : c.Keeps c') (vars : c''.karnVars = c'.karnVars)
    (sent : c''.transmissions = c'.transmissions) : c.Keeps c'' where
  karn := keeps.karn.sends (.of_vars vars sent)
  narrow := by
    have wnd : c''.sndWnd = c'.sndWnd := congrArg (·.2.2.2.1) vars
    exact wnd ▸ keeps.narrow
  hasRoom := fun room => (keeps.hasRoom room).of_karnVars vars

theorem Keeps.refl (narrow : NarrowWindow c.sndWnd) : c.Keeps c :=
  ⟨SendsByKarn.keeps (.of_vars rfl rfl), narrow, id⟩

/-- What is required of an acknowledgement: snd_una is not moved half around. -/
structure NearAck (c : TCPConnection) (tcpseg : TCPSegment) : Prop where
  window : NarrowWindow tcpseg.window
  near : (tcpseg.ackNo - c.sndUna).toNat ≠ 2 ^ 31

theorem processAckInEstabEtc_keeps {tcpseg : TCPSegment} (mss : 0 < c.sndMss.toNat)
    (narrow : NarrowWindow c.sndWnd) (ack : c.NearAck tcpseg) :
    OnReturn (fun r => c.Keeps r.2) (c.processAckInEstabEtc tcpseg) := by
  refine ((processAckInEstabEtc_karn mss narrow ack.window ack.near).and
    (processAckInEstabEtc_timed narrow ack.window)).imp ?_
  rintro r ⟨karn, wide, -, room⟩
  exact ⟨karn, wide, fun hasRoom => room (Or.inl hasRoom)⟩

theorem processAck_karn {tcpseg : TCPSegment} (mss : 0 < c.sndMss.toNat)
    (narrow : NarrowWindow c.sndWnd) (ack : c.NearAck tcpseg) :
    OnReturn (fun check => c.Keeps check.connection) (c.processAck tcpseg) := by
  by_cases waits : c.fsm = .synRcvd
  · unfold processAck
    rw [waits]
    refine Ensures.ite (fun _ => ?_) fun _ => ?_
    · exact (Keeps.refl narrow).same rfl (c.transmissions_sendRst _)
    · have ack' : { c with sndCwnd := c.sndMss }.NearAck tcpseg := ⟨ack.window, ack.near⟩
      refine Ensures.ok_bind (Ensures.bind (processAckInEstabEtc_keeps mss narrow ack') ?_)
      rintro r ⟨⟨segs, sent, karn⟩, wide, room⟩
      have keeps : c.Keeps r.2 := by
        refine ⟨⟨segs, sent, fun acked sent₀ holds => ?_⟩, wide, room⟩
        exact karn acked sent₀ ⟨holds.before, holds.measured⟩
      rw [Ensures.pure_iff]
      split <;> exact keeps
  · refine processAck_keeps waits True.intro (fun keeps same sent => ?_)
      (fun _ => .refl narrow) fun _ => processAckInEstabEtc_keeps mss narrow ack
    exact keeps.same (congrArg karnVars same :) sent

variable {r : TCPEventCode × TCPConnection}

theorem SegmentReaction.karn {tcpseg : TCPSegment}
    (reaction : c.SegmentReaction tcpseg r) (mss : 0 < c.sndMss.toNat)
    (narrow : NarrowWindow c.sndWnd) (ack : c.NearAck tcpseg) : c.Keeps r.2 := by
  cases reaction with
  | refused same _ _ sent => exact (Keeps.refl narrow).same (congrArg karnVars same :) sent
  | reset reset =>
      obtain ⟨-, sendQueue, toAppl, same⟩ := c.processRst_returns.of_ok reset
      rw [same]
      exact (Keeps.refl narrow).same rfl rfl
  | unexpected => exact (Keeps.refl narrow).same rfl rfl
  | drops _ checked => exact (processAck_karn mss narrow ack).of_ok checked
  | proceeds _ checked processed =>
      have text := ((processTextAndFin_returns _ tcpseg _ _).of_ok processed).1
      have sent := (processTextAndFin_transmissions _ tcpseg _ _).of_ok processed
      exact ((processAck_karn mss narrow ack).of_ok checked).same (congrArg karnVars text :) sent

/-- The windows are narrow, and an open connection has a number left for its FIN. -/
structure RoomInv (fsm : TcpState) (c : TCPConnection) : Prop where
  narrow : fsm ≠ .closed → NarrowWindow c.sndWnd
  hasRoom : fsm = .established ∨ fsm = .closeWait → c.HasRoom

theorem RoomInv.next {event : TCPEventCode} (inv : RoomInv c.fsm c) (past : opening c.fsm = false)
    (alive : c.fsm ≠ .closed) : RoomInv (c.nextState event) c := by
  unfold nextState
  split
  · exact inv
  · cases enters : transition c.active c.fsm event with
    | none => exact inv
    | some next =>
        obtain ⟨-, open'⟩ := retransmitting_transition past enters
        exact ⟨fun _ => inv.narrow alive, fun opened => inv.hasRoom (open' opened)⟩

theorem RoomInv.closed (c : TCPConnection) : RoomInv .closed c :=
  ⟨fun open' => absurd rfl open', fun open' => open'.elim nofun nofun⟩

theorem RoomInv.of_opening {fsm : TcpState} (early : opening fsm = true)
    (narrow : NarrowWindow c.sndWnd) : RoomInv fsm c := by
  refine ⟨fun _ => narrow, ?_⟩
  rintro (rfl | rfl)
  all_goals cases early

/-- In the states that a CLOSE leads to no number has to be left for a FIN. -/
theorem RoomInv.of_closing {fsm next : TcpState} {event : TCPEventCode} (at' : c.fsm = fsm)
    (enters : (if event = .ignore then fsm else (transition c.active fsm event).getD fsm) = next)
    (narrow : NarrowWindow c.sndWnd) (past : next ≠ .established ∧ next ≠ .closeWait) :
    RoomInv (c.nextState event) c := by
  apply at_nextState RoomInv at' enters
  refine ⟨fun _ => narrow, ?_⟩
  rintro (open' | waits)
  · exact absurd open' past.1
  · exact absurd waits past.2

/-- When Karn's rule is kept: the windows and acknowledgements are within half of the numbers, and
if Reno sends everything again, the FIN is the last of it. -/
def SendsOnce (c : TCPConnection) : TCPInput → Prop
  | .segment tcpseg => c.NearAck tcpseg
  | .timeout .rexmitTimer => c.FinLast
  | _ => True

variable {input : TCPInput}

theorem LateReaction.karn
    (reaction : c.LateReaction input r) (some : 0 < c.sndMss.toNat) (mss : c.sndMss.toNat < 2 ^ 31)
    (inv : RoomInv c.fsm c) (past : opening c.fsm = false) (alive : c.fsm ≠ .closed)
    (once : c.SendsOnce input) : KeepsKarn c r.2 ∧ RoomInv (r.2.nextState r.1) r.2 := by
  have fsm := reaction.fsm
  have narrow := inv.narrow alive
  have stays (keeps : c.Keeps r.2) : KeepsKarn c r.2 ∧ RoomInv (r.2.nextState r.1) r.2 := by
    have inv' : RoomInv c.fsm r.2 :=
      ⟨fun _ => keeps.narrow, fun open' => keeps.hasRoom (inv.hasRoom open')⟩
    rw [← fsm] at inv' past alive
    exact ⟨keeps.karn, inv'.next past alive⟩
  cases reaction with
  | @sends msg c' open' sent =>
      have advances := (TCPBaseAlg.sendCommandInvoked_returns _).of_ok sent
      have sends := (sendCommandInvoked_karn (c := c.enqueueAppData msg) some narrow).of_ok sent
      have wnd : c'.sndWnd = c.sndWnd := advances.window
      have queued : SendsByKarn c (c.enqueueAppData msg) := .of_vars rfl rfl
      exact stays ⟨(queued.trans sends).keeps, wnd ▸ narrow, advances.hasRoom narrow⟩
  | closes open' closes =>
      rcases processClose_cases (Or.inr open') closes with ⟨-, rfl⟩ | ⟨-, rfl⟩
      · have sends : SendsByKarn c c.sendFinNow.queueFin :=
          (sendFinNow_karn (inv.hasRoom open')).trans (.of_vars rfl rfl)
        have stayed := c.fsm_closing
        have wnd := congrArg (·.2.2.2) c.rexmitVars_closing
        dsimp only [rexmitVars] at wnd ⊢
        generalize c.sendFinNow.queueFin = closing at sends stayed wnd
        have narrow' : NarrowWindow closing.sndWnd := wnd ▸ narrow
        refine ⟨sends.keeps, ?_⟩
        rcases open' with established | closeWait
        · exact .of_closing (stayed.trans established) rfl narrow' ⟨nofun, nofun⟩
        · exact .of_closing (stayed.trans closeWait) rfl narrow' ⟨nofun, nofun⟩
      · exact stays ((Keeps.refl narrow).same rfl rfl)
  | quiet same _ _ _ sent => exact stays ((Keeps.refl narrow).same (congrArg karnVars same :) sent)
  | segment reaction => exact stays (reaction.karn some narrow once)
  | rexmit scheduled expires =>
      obtain ⟨same, max, -⟩ := (TCPAlgorithm.processRexmitTimer_returns _).of_ok expires
      have wnd : r.2.sndWnd = c.sndWnd := (congrArg sndWnd same :)
      have una : r.2.sndUna = c.sndUna := (congrArg sndUna same :)
      have max' : r.2.sndMax = c.sndMax := max
      have sends := (processRexmitTimer_karn (c := { c with rexmitTimer := false }) some mss
        once).of_ok expires
      have stopped : SendsByKarn c { c with rexmitTimer := false } := .of_vars rfl rfl
      refine stays ⟨(stopped.trans sends).keeps, wnd ▸ narrow, fun room => ?_⟩
      unfold HasRoom at *
      rw [una, max']
      exact room

/-- What is sent first, on the way from `c` to `c'`, is sent by Karn's rule. -/
def StartsKarn (c c' : TCPConnection) : Prop :=
  ∃ segs, c'.transmissions = c.transmissions ++ segs ∧ ∀ acked : Nat,
    let acked' := acked + (c'.sndUna - c.sndUna).toNat
    Karn acked' (segs.map (c'.transmission acked')) c'

theorem KeepsKarn.starts (keeps : KeepsKarn c c') (off : c.rtseqSendtime = 0) : StartsKarn c c' := by
  obtain ⟨segs, sent, karn⟩ := keeps
  exact ⟨segs, sent, fun acked => karn acked [] ⟨nofun, fun runs => absurd off runs⟩⟩

theorem StartsKarn.of_quiet (sent : c'.transmissions = c.transmissions) (off : c'.rtseqSendtime = 0) :
    StartsKarn c c' :=
  ⟨[], sent.trans (List.append_nil _).symm, fun _ => ⟨nofun, fun runs => absurd off runs⟩⟩

theorem StartsKarn.sends (starts : StartsKarn c c') (sends : SendsByKarn c' c'') : StartsKarn c c'' := by
  obtain ⟨segs, sent, karn⟩ := starts
  obtain ⟨una, simTime, segs', sent', karn'⟩ := sends
  refine ⟨segs ++ segs', ?_, fun acked => ?_⟩
  · rw [sent', sent, List.append_assoc]
  · have next := karn' _ _ (karn acked)
    rw [← transmission_of_same simTime una] at next
    dsimp only
    rw [una, List.map_append]
    exact next

theorem SynOutstanding.hasRoom (waits : c.SynOutstanding) : c.HasRoom := by
  unfold HasRoom
  rw [waits.sndMax, waits.sndUna]
  bv_omega

theorem withSynAckReceived_vars {tcpseg : TCPSegment} {sendQueue : TCPVirtualDataSendQueue} :
    let c' := c.withSynAckReceived tcpseg sendQueue
    (c'.transmissions, c'.rtseqSendtime, c'.sndMss) = (c.transmissions, c.rtseqSendtime, c.sndMss) := by
  unfold withSynAckReceived
  dsimp only
  split <;> rfl

theorem established_karn (mss : 0 < c.sndMss.toNat) (narrow : NarrowWindow c.sndWnd) :
    OnReturn (fun c' => SendsByKarn c c') (TCPBaseAlg.established c true) := by
  have opened : SendsByKarn c { c with sndCwnd := c.sndMss } := .of_vars rfl rfl
  unfold TCPBaseAlg.established
  rw [if_pos rfl]
  refine Ensures.bind (sendData_emits (c := { c with sndCwnd := c.sndMss }) mss _ _) ?_
  rintro ⟨sent, c₁⟩ sends
  have sends : SendsByKarn c c₁ := by
    rcases sends with same | ⟨n, segs, new⟩
    · have same : c₁ = { c with sndCwnd := c.sndMss, sndNxt := c.sndMax } := same
      rw [same]
      exact .of_vars rfl rfl
    · exact opened.trans (new.karn narrow)
  rw [Ensures.pure_iff]
  split
  · exact sends
  · exact sends.trans (.of_vars rfl c₁.transmissions_sendAck)

/-- Up to SYN_RCVD nothing is sent that is measured. -/
theorem EarlyReaction.karn
    (reaction : c.EarlyReaction input r) (handshake : Handshake c.fsm c) (mss : 0 < c.sndMss.toNat)
    (inv : RoomInv c.fsm c) (early : opening c.fsm = true) (off : c.rtseqSendtime = 0) (once : c.SendsOnce input) :
    StartsKarn c r.2 ∧ RoomInv (r.2.nextState r.1) r.2 ∧ (opening (r.2.nextState r.1) = true →
        r.2.transmissions = c.transmissions ∧ r.2.rtseqSendtime = 0) := by
  have narrow : NarrowWindow c.sndWnd := inv.narrow fun closed => by
    rw [closed] at early
    cases early
  have quiet (sent : r.2.transmissions = c.transmissions)
      (same : r.2.rtseqSendtime = c.rtseqSendtime) (room : RoomInv (r.2.nextState r.1) r.2) :
      StartsKarn c r.2 ∧ RoomInv (r.2.nextState r.1) r.2 ∧
        (opening (r.2.nextState r.1) = true →
          r.2.transmissions = c.transmissions ∧ r.2.rtseqSendtime = 0) :=
    ⟨.of_quiet sent (same.trans off), room, fun _ => ⟨sent, same.trans off⟩⟩
  have fsm := reaction.fsm
  cases reaction with
  | @quiet _ _ c' same next _ _ sent =>
      have wnd : c'.sndWnd = c.sndWnd := (congrArg sndWnd same :)
      refine quiet sent (congrArg TCPConnection.rtseqSendtime same :) ?_
      rcases next with stays | closed | ⟨-, listens⟩
      · rw [stays]
        exact .of_opening early (wnd ▸ narrow)
      · rw [closed]
        exact .closed _
      · rw [listens]
        exact .of_opening rfl (wnd ▸ narrow)
  | listens new =>
      refine quiet rfl rfl ?_
      rcases new with new | listens
      · exact at_nextState RoomInv new rfl (.of_opening rfl narrow)
      · exact at_nextState RoomInv listens rfl (.of_opening rfl narrow)
  | opens new sent =>
      refine quiet sent rfl ?_
      rcases new with new | listens
      · exact at_nextState RoomInv new rfl (.of_opening rfl narrow)
      · exact at_nextState RoomInv listens rfl (.of_opening rfl narrow)
  | opensToSend listens _ sent =>
      exact quiet sent rfl (at_nextState RoomInv listens rfl (.of_opening rfl narrow))
  | enqueues waits =>
      refine quiet rfl rfl ?_
      rcases waits with waits | waits
      · exact at_nextState RoomInv waits rfl (.of_opening rfl narrow)
      · exact at_nextState RoomInv waits rfl (.of_opening rfl narrow)
  | closes waits closes =>
      rw [waits] at handshake
      have left {next : TcpState} (late : opening next = false) {c' : TCPConnection} :
          opening next = true → c'.transmissions = c.transmissions ∧ c'.rtseqSendtime = 0 :=
        fun early => absurd (late.symm.trans early) Bool.noConfusion
      rcases processClose_cases (Or.inl waits) closes with ⟨-, rfl⟩ | ⟨-, rfl⟩
      · have sends : SendsByKarn c c.sendFinNow.queueFin :=
          (sendFinNow_karn handshake.hasRoom).trans (.of_vars rfl rfl)
        have stayed := c.fsm_closing
        have wnd := congrArg (·.2.2.2) c.rexmitVars_closing
        dsimp only [rexmitVars] at wnd ⊢
        generalize c.sendFinNow.queueFin = closing at sends stayed wnd
        have narrow' : NarrowWindow closing.sndWnd := wnd ▸ narrow
        refine ⟨sends.keeps.starts off, .of_closing (stayed.trans waits) rfl narrow' ⟨nofun, nofun⟩, ?_⟩
        apply left
        rw [nextState_eq (stayed.trans waits)]
        rfl
      · rw [waits] at fsm ⊢
        refine ⟨.of_quiet rfl off, .of_closing fsm rfl narrow ⟨nofun, nofun⟩, ?_⟩
        apply left
        rw [nextState_eq fsm]
        rfl
  | syn listens sent =>
      exact quiet sent rfl (at_nextState RoomInv listens rfl (.of_opening rfl once.window))
  | @synSent tcpseg _ waits reaction =>
      rw [waits] at handshake
      cases reaction with
      | ignores same _ sent =>
          have wnd := (congrArg sndWnd same :)
          have sendtime := (congrArg TCPConnection.rtseqSendtime same :)
          refine quiet sent sendtime (at_nextState RoomInv (fsm.trans waits) rfl ?_)
          exact .of_opening rfl (wnd ▸ narrow)
      | resets => exact quiet rfl rfl (at_nextState RoomInv waits rfl (.closed _))
      | @establishes _ sendQueue acks synAck discarded notified =>
          obtain ⟨-, room, wnd⟩ := timed_of_synAck handshake (acks.ackNo handshake.sndNxt)
          have vars := @withSynAckReceived_vars c tcpseg sendQueue
          simp only [Prod.mk.injEq] at vars
          obtain ⟨sent, sendtime, mss'⟩ := vars
          have wide := wnd.symm ▸ once.window
          have advances := (TCPBaseAlg.established_returns _ _).of_ok notified
          have sends := (established_karn (mss'.symm ▸ mss) wide).of_ok notified
          have opened : StartsKarn c _ := .of_quiet sent (sendtime.trans off)
          have hasRoom := advances.hasRoom wide room
          refine ⟨opened.sends sends, ⟨fun _ => ?_, fun _ => hasRoom⟩, fun early' => ?_⟩
          · dsimp only
            rw [advances.window]
            exact wide
          · rw [nextState_eq (fsm.trans waits)] at early'
            cases early'
      | crosses _ sent =>
          exact quiet sent rfl (at_nextState RoomInv waits rfl (.of_opening rfl narrow))
  | synRcvd waits reaction =>
      rw [waits] at handshake
      have keeps := reaction.karn mss narrow once
      have room : RoomInv (r.2.nextState r.1) r.2 :=
        ⟨fun _ => keeps.narrow, fun _ => keeps.hasRoom handshake.hasRoom⟩
      refine ⟨keeps.karn.starts off, room, fun early' => ?_⟩
      rcases reaction.synRcvd waits with
        ⟨-, same, sent⟩ | ⟨-, sendQueue, toAppl, reset⟩ | event | ⟨event, -⟩ | ⟨event, -⟩
      · exact ⟨sent, (congrArg TCPConnection.rtseqSendtime same :).trans off⟩
      · rw [reset]
        exact ⟨rfl, off⟩
      all_goals
        rw [nextState_eq (fsm.trans waits), event] at early'
        cases early'

theorem SendsOnce.atTime (once : c.SendsOnce input) (simTime : Nat) : (c.atTime simTime).SendsOnce input := by
  cases input with
  | segment tcpseg =>
      have near : c.NearAck tcpseg := once
      exact ⟨near.window, near.near⟩
  | timeout timer => cases timer <;> exact once
  | command cmd => exact True.intro

/-- A connection with all that it has sent; `acked` is `snd_una` without the reduction modulo
2^32. -/
structure TransmissionHistory where
  connection : TCPConnection
  acked : Nat
  sent : List Transmission

namespace TransmissionHistory

def create (tcpAlgorithm : TCPAlgorithm) : TransmissionHistory where
  connection := .create tcpAlgorithm
  acked := 0
  sent := []

def step (h : TransmissionHistory) (arrival : Nat × TCPInput) : Exec TransmissionHistory := do
  let connection ← h.connection.step arrival
  let acked := h.acked + (connection.sndUna - h.connection.sndUna).toNat
  let segs := connection.transmissions.drop h.connection.transmissions.length
  return { connection, acked, sent := h.sent ++ segs.map (connection.transmission acked) }

def timesMeasured (h : TransmissionHistory) : List Nat :=
  timesSent h.sent (h.connection.place h.acked h.connection.rtseq)

variable {h h' : TransmissionHistory} {tcpAlgorithm : TCPAlgorithm}

structure Inv (tcpAlgorithm : TCPAlgorithm) (h : TransmissionHistory) : Prop where
  base : Handshake h.connection.fsm h.connection ∧
    (h.connection.fsm = .closed ∨ h.connection.parameters = (tcpAlgorithm, 1024, 128 * 1024))
  room : RoomInv h.connection.fsm h.connection
  before : opening h.connection.fsm = true → h.sent = [] ∧ h.connection.rtseqSendtime = 0
  karn : Karn h.acked h.sent h.connection

theorem inv_create (tcpAlgorithm : TCPAlgorithm) : Inv tcpAlgorithm (create tcpAlgorithm) where
  base := handshake_create tcpAlgorithm
  room := .of_opening rfl (show NarrowWindow 0 by unfold NarrowWindow; decide)
  before := fun _ => ⟨rfl, rfl⟩
  karn := ⟨nofun, fun runs => absurd rfl runs⟩

theorem step_cases {arrival : Nat × TCPInput} (done : h.step arrival = .ok h') :
    h.connection.step arrival = .ok h'.connection ∧
      h'.acked = h.acked + (h'.connection.sndUna - h.connection.sndUna).toNat ∧
      ∀ segs, h'.connection.transmissions = h.connection.transmissions ++ segs →
        h'.sent = h.sent ++ segs.map (h'.connection.transmission h'.acked) := by
  unfold step at done
  cases steps : h.connection.step arrival with
  | error fault =>
      rw [steps] at done
      cases done
  | ok c' =>
      rw [steps] at done
      cases done
      refine ⟨rfl, rfl, fun segs sent => ?_⟩
      dsimp only at sent ⊢
      rw [sent, List.drop_left]

theorem inv_step {arrival : Nat × TCPInput} (inv : Inv tcpAlgorithm h)
    (once : h.connection.SendsOnce arrival.2) (done : h.step arrival = .ok h') : Inv tcpAlgorithm h' := by
  obtain ⟨steps, acked, sent⟩ := step_cases done
  have base := handshake_step inv.base steps
  have handled := handle_of_step steps
  by_cases ended : h.connection.fsm = .closed
  · have same : h'.connection = h.connection := by
      unfold handle at handled
      rw [if_pos ended] at handled
      exact (Except.ok.inj handled).symm
    have none : h'.connection.transmissions = h.connection.transmissions ++ [] := by
      rw [same, List.append_nil]
    have early : opening h'.connection.fsm ≠ true := by
      rw [same, ended]
      exact Bool.noConfusion
    refine ⟨base, ?_, fun opens => absurd opens early, ?_⟩
    · rw [same]
      exact inv.room
    · rw [sent [] none, acked, same, BitVec.sub_self, List.map_nil, List.append_nil]
      exact inv.karn
  · obtain ⟨r, processed, fsm, same⟩ := handle_cases ended handled
    have vars : h'.connection.karnVars = r.2.karnVars := (congrArg karnVars same :)
    have rest : h'.connection.transmissions = r.2.transmissions := (congrArg transmissions same :)
    have sends : SendsByKarn r.2 h'.connection := .of_vars vars rest
    have fixed := inv.base.2.resolve_left ended
    have mss : h.connection.sndMss = 1024 := congrArg (·.2.1) fixed
    have some : 0 < h.connection.sndMss.toNat := by
      rw [mss]
      decide
    have room : RoomInv (r.2.nextState r.1) r.2 →
        RoomInv h'.connection.fsm h'.connection := by
      rw [fsm]
      have wnd : h'.connection.sndWnd = r.2.sndWnd := congrArg (·.2.2.2.1) vars
      exact fun room => ⟨fun open' => wnd ▸ room.narrow open',
        fun open' => (room.hasRoom open').of_karnVars vars⟩
    have now : Handshake (h.connection.atTime arrival.1).fsm (h.connection.atTime arrival.1) :=
      inv.base.1.of_same rfl
    have once' : (h.connection.atTime arrival.1).SendsOnce arrival.2 := once.atTime arrival.1
    have inv' : RoomInv (h.connection.atTime arrival.1).fsm (h.connection.atTime arrival.1) :=
      ⟨inv.room.narrow, inv.room.hasRoom⟩
    cases early : opening h.connection.fsm with
    | true =>
        obtain ⟨none, off⟩ := inv.before early
        have reaction := (processInput_early now early arrival.2).of_ok processed
        obtain ⟨starts, room', quiet⟩ := reaction.karn now some inv' early off once'
        obtain ⟨segs, sent', karn⟩ := starts.sends sends
        refine ⟨base, room room', fun opens => ?_, ?_⟩
        · rw [fsm] at opens
          obtain ⟨sent₁, off₁⟩ := quiet opens
          have sendtime : h'.connection.rtseqSendtime = r.2.rtseqSendtime :=
            congrArg (·.2.2.2.2.2) vars
          have silent := sent [] ((rest.trans sent₁).trans (List.append_nil _).symm)
          rw [none] at silent
          exact ⟨silent, sendtime.trans off₁⟩
        · rw [sent segs sent', none, acked]
          exact karn h.acked
    | false =>
        have reaction := (processInput_late (c := h.connection.atTime arrival.1) early ended
          arrival.2).of_ok processed
        have short : h.connection.sndMss.toNat < 2 ^ 31 := by
          rw [mss]
          decide
        obtain ⟨keeps, room'⟩ := reaction.karn some short inv' early ended once'
        obtain ⟨segs, sent', karn⟩ := keeps.sends sends
        refine ⟨base, room room', fun opens => ?_, ?_⟩
        · have at' : r.2.fsm = h.connection.fsm := reaction.fsm
          have past := opening_nextState (at'.symm ▸ early) r.1
          rw [fsm] at opens
          exact absurd (past.symm.trans opens) Bool.noConfusion
        · rw [sent segs sent', acked]
          exact karn h.acked h.sent ⟨inv.karn.before, inv.karn.measured⟩

theorem inv_of_runs {arrivals : List (Nat × TCPInput)}
    (runs : Runs step (fun h arrival => h.connection.SendsOnce arrival.2) (create tcpAlgorithm)
      arrivals h) : Inv tcpAlgorithm h :=
  runs.invariant (Inv tcpAlgorithm) (fun _ _ _ inv once done => inv_step inv once done)
    (inv_create tcpAlgorithm)

/-- In every such run a byte whose round-trip time is measured was sent once, when the measurement
was started, and the retransmission timer is not scheduled when a measurement is complete. -/
theorem measured_once_of_sendsOnce {arrivals : List (Nat × TCPInput)}
    (runs : Runs step (fun h arrival => h.connection.SendsOnce arrival.2) (create tcpAlgorithm)
      arrivals h) :
    (h.connection.rtseqSendtime ≠ 0 → h.timesMeasured = [h.connection.rtseqSendtime]) ∧
      ∀ c, ∃ c', TCPBaseAlg.receivedDataAck c = .ok c' := by
  refine ⟨fun runs' => ((inv_of_runs runs).karn.measured runs').2, fun c => ?_⟩
  obtain ⟨_, _, notified⟩ := TCPBaseAlg.receivedDataAck_eq c
  exact ⟨_, notified⟩

theorem measured_once_example : ∃ h,
    Runs step (fun h arrival => h.connection.SendsOnce arrival.2) (create .reno)
      [(0, .command (.openActive true)), (1, .segment exampleSynAck),
        (2, .command (.send ⟨"data", 800⟩))] h ∧
      h.connection.rtseqSendtime = 2 ∧ h.timesMeasured = [2] := by
  have runs : Runs step (fun h arrival => h.connection.SendsOnce arrival.2) (create .reno)
      [(0, .command (.openActive true)), (1, .segment exampleSynAck),
        (2, .command (.send ⟨"data", 800⟩))] _ :=
    .cons True.intro rfl (.cons ⟨by unfold NarrowWindow; decide, by decide⟩ rfl
      (.cons True.intro rfl (.nil _)))
  exact ⟨_, runs, rfl, (measured_once_of_sendsOnce runs).1 (by decide)⟩

/-- Once the FIN is sent in the middle of the queue, Reno retransmits more than it has sent, and
the byte at `snd_max` is measured when it is sent again. -/
theorem measured_byte_sent_twice :
    ¬ ∀ tcpAlgorithm arrivals h, Runs step (fun _ _ => True) (create tcpAlgorithm) arrivals h →
      h.connection.rtseqSendtime ≠ 0 → h.timesMeasured = [h.connection.rtseqSendtime] := by
  intro claim
  have runs : Runs step (fun _ _ => True) (create .reno)
      (exampleDeferred ++ [(5, .segment (exampleAck 1)), (6, .segment (exampleAck 1)),
        (7, .segment (exampleAck 1)), (8, .command (.send ⟨"more", 8000⟩)),
        (9, .timeout .rexmitTimer), (10, .segment (exampleAck 2050))]) _ :=
    .cons True.intro rfl (.cons True.intro rfl (.cons True.intro rfl (.cons True.intro rfl
      (.cons True.intro rfl (.cons True.intro rfl (.cons True.intro rfl (.cons True.intro rfl
        (.cons True.intro rfl (.cons True.intro rfl (.cons True.intro rfl (.nil _)))))))))))
  have once := claim _ _ _ runs (by decide)
  revert once
  decide

end TransmissionHistory

end TCPConnection

end IPv6Suite
