import IPv6Suite.TCPDeferredFin
import IPv6Suite.TCPTransmissions
import Mathlib.Algebra.GroupWithZero.Nat

namespace IPv6Suite

open Lib

namespace TCPConnection

variable {c c' : TCPConnection}

/-! ### A list of segments -/

/-- A segment of data. The FIN goes with the one that ends at `snd_fin_seq`. -/
def dataSegment (c : TCPConnection) (seq : BitVec 32) (bytes : Nat) : TCPSegment :=
  { TCPSegment.create with
    sequenceNo := seq
    ackNo := c.rcvNxt
    ackBit := true
    finBit := decide (c.sendFin = true ∧ seq + BitVec.ofNat 32 bytes = c.sndFinSeq)
    window := c.rcvWnd
    payloadLength := bytes }

/-- Segments of the given lengths, each of which begins where the one before ends. -/
def segmentsFrom (c : TCPConnection) : BitVec 32 → List Nat → List TCPSegment
  | _, [] => []
  | seq, bytes :: rest => c.dataSegment seq bytes :: c.segmentsFrom (seq + BitVec.ofNat 32 bytes) rest

def sendSegments (c : TCPConnection) : List Nat → TCPExec TCPConnection
  | [] => .ok c
  | bytes :: rest => do
      let c ← c.sendSegment bytes
      c.sendSegments rest

/-- The queue can be asked for these bytes. -/
def HasBytes (c : TCPConnection) (seq : BitVec 32) (bytes : Nat) : Prop :=
  seqLE c.sendQueue.beginSeq seq ∧ seqLE (seq + BitVec.ofNat 32 bytes) c.sendQueue.endSeq

/-- The queue holds each segment, and no FIN comes between two of them. -/
def Follow (c : TCPConnection) : BitVec 32 → List Nat → Prop
  | _, [] => True
  | seq, bytes :: rest => c.HasBytes seq bytes ∧
      (rest ≠ [] → ¬ (c.sendFin = true ∧ seq + BitVec.ofNat 32 bytes = c.sndFinSeq)) ∧
        c.Follow (seq + BitVec.ofNat 32 bytes) rest

theorem createSegmentWithBytes_eq {bytes : Nat} (hasBytes : c.HasBytes c.sndNxt bytes) :
    c.sendQueue.createSegmentWithBytes c.sndNxt bytes =
      .ok { TCPSegment.create with sequenceNo := c.sndNxt, payloadLength := bytes } := by
  unfold HasBytes at hasBytes
  unfold TCPVirtualDataSendQueue.createSegmentWithBytes
  rw [assert_pos hasBytes]
  rfl

theorem sendSegment_eq {bytes : Nat} (hasBytes : c.HasBytes c.sndNxt bytes) : c.sendSegment bytes =
      .ok { c with sndNxt := c.nxtAfter bytes, toIP := c.toIP ++ [c.dataSegment c.sndNxt bytes] } := by
  unfold sendSegment
  rw [createSegmentWithBytes_eq hasBytes]
  show Except.ok (ite _ _ _) = _
  by_cases fin : c.sendFin = true ∧ c.sndNxt + BitVec.ofNat 32 bytes = c.sndFinSeq
  · have nxt : c.nxtAfter bytes = c.sndFinSeq + 1 := by
      unfold nxtAfter
      simp [fin]
    have segment : c.dataSegment c.sndNxt bytes = { TCPSegment.create with
        sequenceNo := c.sndNxt
        ackNo := c.rcvNxt
        ackBit := true
        finBit := true
        window := c.rcvWnd
        payloadLength := bytes } := by
      unfold dataSegment
      simp [fin]
    rw [if_pos fin, nxt, segment]
    rfl
  · have nxt : c.nxtAfter bytes = c.sndNxt + BitVec.ofNat 32 bytes := if_neg fin
    have segment : c.dataSegment c.sndNxt bytes = { TCPSegment.create with
        sequenceNo := c.sndNxt
        ackNo := c.rcvNxt
        ackBit := true
        window := c.rcvWnd
        payloadLength := bytes } := by
      unfold dataSegment
      simp only [fin, decide_false]
      rfl
    rw [if_neg fin, nxt, segment]
    rfl

theorem hasBytes_of_sendSegment {bytes : Nat} (sends : c.sendSegment bytes = .ok c') :
    c.HasBytes c.sndNxt bytes := by
  by_contra outside
  unfold HasBytes at outside
  unfold sendSegment TCPVirtualDataSendQueue.createSegmentWithBytes at sends
  rw [assert_neg outside] at sends
  cases sends

theorem segmentsFrom_congr (same : c'.exceptSegments = c.exceptSegments) (seq : BitVec 32) (lens : List Nat) :
    c'.segmentsFrom seq lens = c.segmentsFrom seq lens := by
  have rcvNxt : c'.rcvNxt = c.rcvNxt := (congrArg TCPConnection.rcvNxt same :)
  have rcvWnd : c'.rcvWnd = c.rcvWnd := (congrArg TCPConnection.rcvWnd same :)
  have sendFin : c'.sendFin = c.sendFin := (congrArg TCPConnection.sendFin same :)
  have sndFinSeq : c'.sndFinSeq = c.sndFinSeq := (congrArg TCPConnection.sndFinSeq same :)
  induction lens generalizing seq with
  | nil => rfl
  | cons bytes rest ih => simp only [segmentsFrom, dataSegment, rcvNxt, rcvWnd, sendFin, sndFinSeq, ih]

theorem follow_congr (same : c'.exceptSegments = c.exceptSegments) (seq : BitVec 32) (lens : List Nat) :
    c'.Follow seq lens ↔ c.Follow seq lens := by
  have sendQueue : c'.sendQueue = c.sendQueue := (congrArg TCPConnection.sendQueue same :)
  have sendFin : c'.sendFin = c.sendFin := (congrArg TCPConnection.sendFin same :)
  have sndFinSeq : c'.sndFinSeq = c.sndFinSeq := (congrArg TCPConnection.sndFinSeq same :)
  induction lens generalizing seq with
  | nil => exact Iff.rfl
  | cons bytes rest ih => simp only [Follow, HasBytes, sendQueue, sendFin, sndFinSeq, ih]

/-- Where the segments leave `snd_nxt`; a FIN with the last one takes a number of its own. -/
def nxtAfterAll (c : TCPConnection) (seq : BitVec 32) (bytes : Nat) : BitVec 32 :=
  if c.sendFin = true ∧ seq + BitVec.ofNat 32 bytes = c.sndFinSeq then seq + BitVec.ofNat 32 bytes + 1
  else seq + BitVec.ofNat 32 bytes

theorem sendSegments_eq {lens : List Nat} (some : lens ≠ []) (follow : c.Follow c.sndNxt lens) :
    c.sendSegments lens =
      .ok { c with
        sndNxt := c.nxtAfterAll c.sndNxt lens.sum
        toIP := c.toIP ++ c.segmentsFrom c.sndNxt lens } := by
  induction lens generalizing c with
  | nil => exact absurd rfl some
  | cons bytes rest ih =>
      obtain ⟨hasBytes, between, later⟩ := follow
      unfold sendSegments
      rw [sendSegment_eq hasBytes]
      show sendSegments _ rest = _
      cases rest with
      | nil => simp [sendSegments, segmentsFrom, nxtAfterAll, nxtAfter]
      | cons bytes' rest' =>
          have noFin := between (List.cons_ne_nil _ _)
          have nxt : c.nxtAfter bytes = c.sndNxt + BitVec.ofNat 32 bytes := if_neg noFin
          rw [nxt]
          generalize sent : ({ c with
            sndNxt := c.sndNxt + BitVec.ofNat 32 bytes
            toIP := c.toIP ++ [c.dataSegment c.sndNxt bytes] } : TCPConnection) = c₁
          have same : c₁.exceptSegments = c.exceptSegments := by rw [← sent]; rfl
          have sndNxt : c₁.sndNxt = c.sndNxt + BitVec.ofNat 32 bytes := by rw [← sent]
          have place : c.sndNxt + BitVec.ofNat 32 bytes + BitVec.ofNat 32 (bytes' :: rest').sum =
              c.sndNxt + BitVec.ofNat 32 (bytes :: bytes' :: rest').sum := by
            rw [List.sum_cons (a := bytes), BitVec.ofNat_add, BitVec.add_assoc]
          rw [ih (List.cons_ne_nil _ _) ((follow_congr same _ _).mpr (sndNxt ▸ later)), segmentsFrom_congr same,
            sndNxt, ← sent]
          simp only [nxtAfterAll, place, List.append_assoc]
          rfl

theorem sendSegments_sent (lens : List Nat) : OnReturn
    (fun c' => ∃ segs, c'.toIP = c.toIP ++ segs ∧ segs.map (·.payloadLength) = lens ∧
      ∀ tcpseg ∈ segs.head?, tcpseg.sequenceNo = c.sndNxt) (c.sendSegments lens) := by
  induction lens generalizing c with
  | nil => exact ⟨[], (List.append_nil _).symm, rfl, nofun⟩
  | cons bytes rest ih =>
      unfold sendSegments
      have one : OnReturn (fun c₁ => ∃ seg : TCPSegment, c₁.toIP = c.toIP ++ [seg] ∧
          seg.payloadLength = bytes ∧ seg.sequenceNo = c.sndNxt) (c.sendSegment bytes) := by
        apply OnReturn.of_forall
        intro c₁ sends
        have sent := (sendSegment_eq (hasBytes_of_sendSegment sends)).symm.trans sends
        cases sent
        exact ⟨c.dataSegment c.sndNxt bytes, rfl, rfl, rfl⟩
      apply Ensures.bind one
      rintro c₁ ⟨seg, first, length, seq⟩
      apply (ih (c := c₁)).imp
      rintro c₂ ⟨segs, later, lengths, -⟩
      refine ⟨seg :: segs, ?_, ?_, ?_⟩
      · rw [later, first, List.append_assoc]
        rfl
      · rw [List.map_cons, length, lengths]
      · intro tcpseg mem
        cases mem
        exact seq

theorem follow_of_sendSegments {lens : List Nat} (sends : c.sendSegments lens = .ok c')
    (sent : c'.toIP = c.toIP ++ c.segmentsFrom c.sndNxt lens) : c.Follow c.sndNxt lens := by
  induction lens generalizing c with
  | nil => exact True.intro
  | cons bytes rest ih =>
      unfold sendSegments at sends
      cases first : c.sendSegment bytes with
      | error fault =>
          rw [first] at sends
          cases sends
      | ok c₁ =>
          rw [first] at sends
          have later : c₁.sendSegments rest = .ok c' := sends
          have hasBytes := hasBytes_of_sendSegment first
          have shape := (sendSegment_eq hasBytes).symm.trans first
          have same : c₁.exceptSegments = c.exceptSegments := by
            cases shape
            rfl
          have sndNxt : c₁.sndNxt = c.nxtAfter bytes := by
            cases shape
            rfl
          have front : c₁.toIP = c.toIP ++ [c.dataSegment c.sndNxt bytes] := by
            cases shape
            rfl
          have behind : c'.toIP = c₁.toIP ++ c.segmentsFrom (c.sndNxt + BitVec.ofNat 32 bytes) rest := by
            rw [sent, front, segmentsFrom, List.append_assoc]
            rfl
          cases rest with
          | nil => exact ⟨hasBytes, fun more => absurd rfl more, True.intro⟩
          | cons bytes' rest' =>
              obtain ⟨segs, sent', -, start⟩ := (sendSegments_sent _).of_ok later
              have next := List.append_cancel_left (sent'.symm.trans behind)
              have begins : c.sndNxt + BitVec.ofNat 32 bytes = c₁.sndNxt := by
                rw [next, segmentsFrom] at start
                exact start _ rfl
              have noFin : ¬ (c.sendFin = true ∧ c.sndNxt + BitVec.ofNat 32 bytes = c.sndFinSeq) := by
                intro fin
                have beyond : c.nxtAfter bytes = c.sndNxt + BitVec.ofNat 32 bytes + 1 := if_pos fin
                rw [sndNxt, beyond] at begins
                bv_omega
              have followed : c₁.Follow c₁.sndNxt (bytes' :: rest') := by
                apply ih later
                rw [behind, begins, segmentsFrom_congr same]
              rw [follow_congr same, ← begins] at followed
              exact ⟨hasBytes, fun _ => noFin, followed⟩

/-! ### What `sendData` sends -/

/-- `n` bytes cut into segments: a single one, or whole segments as far as they go -/
def cut (mss n : Nat) : List Nat := if n ≤ mss then [n] else List.replicate (n / mss) mss

theorem sendWholeSegments_eq {bytesToSend fuel : Nat} (mss : 0 < c.sndMss.toNat)
    (enough : bytesToSend / c.sndMss.toNat ≤ fuel) : c.sendWholeSegments bytesToSend fuel =
      c.sendSegments (List.replicate (bytesToSend / c.sndMss.toNat) c.sndMss.toNat) := by
  induction fuel generalizing c bytesToSend with
  | zero =>
      have short : bytesToSend < c.sndMss.toNat := by
        have none : bytesToSend / c.sndMss.toNat = 0 := Nat.eq_zero_of_le_zero enough
        exact (Nat.div_eq_zero_iff_lt mss).mp none
      unfold sendWholeSegments
      rw [if_pos short, Nat.div_eq_of_lt short]
      rfl
  | succ fuel ih =>
      unfold sendWholeSegments
      by_cases short : bytesToSend < c.sndMss.toNat
      · rw [if_pos short, Nat.div_eq_of_lt short]
        rfl
      · have one : bytesToSend / c.sndMss.toNat = (bytesToSend - c.sndMss.toNat) / c.sndMss.toNat + 1 :=
          Nat.div_eq_sub_div mss (by omega)
        rw [if_neg short, one, List.replicate_succ]
        show c.sendSegment _ >>= _ = c.sendSegment _ >>= _
        cases sends : c.sendSegment c.sndMss.toNat with
        | error fault => rfl
        | ok c₁ =>
            have same := ((sendSegment_returns c c.sndMss.toNat).of_ok sends).1
            have mss₁ : c₁.sndMss = c.sndMss := (congrArg TCPConnection.sndMss same :)
            show c₁.sendWholeSegments (bytesToSend - c₁.sndMss.toNat) fuel = _
            rw [mss₁, ← mss₁]
            apply ih
            · rw [mss₁]
              exact mss
            · rw [mss₁]
              omega

theorem sendBytes_eq {bytesToSend : Nat} (mss : 0 < c.sndMss.toNat) :
    c.sendBytes bytesToSend = c.sendSegments (cut c.sndMss.toNat bytesToSend) := by
  unfold sendBytes cut
  split
  · show _ = c.sendSegment bytesToSend >>= _
    cases c.sendSegment bytesToSend <;> rfl
  · exact sendWholeSegments_eq mss (Nat.div_le_self _ _)

/-- The smaller of the windows; a congestion window from 2^31 on is negative as an `int`, which stands for no limit. -/
def window (c : TCPConnection) : Nat :=
  if c.sndCwnd.toNat < 2 ^ 31 then min c.sndWnd.toNat c.sndCwnd.toNat else c.sndWnd.toNat

/-- The bytes that the window and the queue leave to be sent -/
def room (c : TCPConnection) : Nat := min (c.window - c.outstanding) (c.sendQueue.bytesAvailable c.sndMax)

/-- Nothing is sent: there is no room, or by Nagle's algorithm it is not enough. -/
def Idle (c : TCPConnection) : Prop :=
  c.room = 0 ∨ (c.nagleEnabled = true ∧ c.sndUna ≠ c.sndMax) ∧ c.room < c.sndMss.toNat
deriving Decidable

theorem effectiveWin_eq (c : TCPConnection) :
    { c with sndNxt := c.sndMax }.effectiveWin c.sndCwnd.toInt = (c.window : Int) - c.outstanding := by
  unfold effectiveWin window outstanding
  have value := BitVec.toInt_eq_toNat_cond c.sndCwnd
  have less := c.sndCwnd.isLt
  dsimp only
  split_ifs at value ⊢ <;> omega

theorem sendData_idle (idle : c.Idle) : TCPBaseAlg.sendData c = .ok (false, { c with sndNxt := c.sndMax }) := by
  have window := c.effectiveWin_eq
  unfold TCPBaseAlg.sendData sendData
  dsimp only
  split
  · rfl
  split
  · rfl
  rename_i queued open'
  rw [window] at open' ⊢
  have room : min ((c.window : Int) - c.outstanding).toNat (c.sendQueue.bytesAvailable c.sndMax) = c.room := by
    unfold room
    omega
  rw [room, if_pos]
  cases idle with
  | inl none =>
      unfold TCPConnection.room at none
      omega
  | inr nagle => exact nagle

theorem sendData_active (mss : 0 < c.sndMss.toNat) (active : ¬ c.Idle) :
    TCPBaseAlg.sendData c = do
      let c' ← { c with sndNxt := c.sndMax }.sendSegments (cut c.sndMss.toNat c.room)
      let c' ← TCPBaseAlg.dataSent (TCPBaseAlg.ackSent { c' with sndMax := c'.sndNxt }) c.sndMax
      return (true, c') := by
  have window := c.effectiveWin_eq
  have some : c.room ≠ 0 := fun none => active (Or.inl none)
  have enough : ¬ ((c.nagleEnabled = true ∧ c.sndUna ≠ c.sndMax) ∧ c.room < c.sndMss.toNat) :=
    fun short => active (Or.inr short)
  have room : min ((c.window : Int) - c.outstanding).toNat (c.sendQueue.bytesAvailable c.sndMax) = c.room := by
    unfold room
    omega
  unfold TCPBaseAlg.sendData sendData
  dsimp only
  rw [window, room, if_neg, if_neg, if_neg enough]
  · have sends := @sendBytes_eq { c with sndNxt := c.sndMax } c.room mss
    rw [sends]
  · unfold TCPConnection.room at some
    omega
  · unfold TCPConnection.room at some
    omega

theorem map_segmentsFrom (c : TCPConnection) (seq : BitVec 32) (lens : List Nat) :
    (c.segmentsFrom seq lens).map (·.payloadLength) = lens := by
  induction lens generalizing seq with
  | nil => rfl
  | cons bytes rest ih => simp only [segmentsFrom, List.map_cons, ih, dataSegment]

/-- The bytes sent in segments of the given lengths are those that come next, within both windows and the queue. -/
structure SendsNext (c : TCPConnection) (lens : List Nat) (c' : TCPConnection) : Prop where
  sent : c'.toIP = c.toIP ++ c.segmentsFrom c.sndMax lens
  some : lens ≠ []
  sizes : ∀ bytes ∈ lens, 1 ≤ bytes ∧ bytes ≤ c.sndMss.toNat
  full : (∀ bytes ∈ lens, bytes = c.sndMss.toNat) ∨
    lens = [min (min c.sndWnd.toNat c.sndCwnd.toNat - c.outstanding) (c.sendQueue.bytesAvailable c.sndMax)]
  inWindow : c.outstanding + lens.sum ≤ min c.sndWnd.toNat c.sndCwnd.toNat
  queued : lens.sum ≤ c.sendQueue.bytesAvailable c.sndMax
  sndMax : c'.sndMax = c.nxtAfterAll c.sndMax lens.sum
  sndNxt : c'.sndNxt = c'.sndMax

def SendsData (c : TCPConnection) : Prop :=
  ∃ sent c', TCPBaseAlg.sendData c = .ok (sent, c') ∧
    (sent = false → c'.toIP = c.toIP ∧ c'.sndMax = c.sndMax) ∧ (sent = true → ∃ lens, c.SendsNext lens c')

/-- What has to hold of the bytes there is room for, cut into segments. -/
structure RoomFits (c : TCPConnection) : Prop where
  inCongestionWindow : c.outstanding + (cut c.sndMss.toNat c.room).sum ≤ c.sndCwnd.toNat
  finLast : c.sendFin = true → ∀ j, 0 < j → (j + 1) * c.sndMss.toNat ≤ c.room →
    c.sndFinSeq ≠ c.sndMax + BitVec.ofNat 32 (j * c.sndMss.toNat)
  comparable : (c.sndMax - c.sendQueue.beginSeq).toNat +
    ((cut c.sndMss.toNat c.room).sum - min c.room c.sndMss.toNat) < 2 ^ 31

theorem follow_replicate (c : TCPConnection) (seq : BitVec 32) (k mss : Nat) :
    c.Follow seq (List.replicate k mss) ↔ ∀ j < k, c.HasBytes (seq + BitVec.ofNat 32 (j * mss)) mss ∧
      (j + 1 < k → ¬ (c.sendFin = true ∧ seq + BitVec.ofNat 32 ((j + 1) * mss) = c.sndFinSeq)) := by
  induction k generalizing seq with
  | zero => simp [Follow]
  | succ k ih =>
      have shift (j : Nat) : seq + BitVec.ofNat 32 mss + BitVec.ofNat 32 (j * mss) =
          seq + BitVec.ofNat 32 ((j + 1) * mss) := by
        rw [Nat.succ_mul, Nat.add_comm (j * mss), BitVec.ofNat_add, BitVec.add_assoc]
      rw [List.replicate_succ, Follow, ih]
      constructor
      · rintro ⟨first, between, later⟩ j inside
        cases j with
        | zero =>
            rw [Nat.zero_mul, Nat.one_mul]
            simp only [BitVec.add_zero]
            exact ⟨first, fun more => between (by simp; omega)⟩
        | succ j =>
            have next := later j (by omega)
            rw [shift, shift] at next
            exact ⟨next.1, fun more => next.2 (by omega)⟩
      · intro all
        have first := all 0 (by omega)
        rw [Nat.zero_mul, Nat.one_mul] at first
        simp only [BitVec.add_zero] at first
        refine ⟨first.1, fun more => first.2 ?_, fun j inside => ?_⟩
        · cases k with
          | zero => exact absurd rfl more
          | succ k => omega
        · have next := all (j + 1) (by omega)
          rw [shift, shift]
          exact ⟨next.1, fun more => next.2 (by omega)⟩

theorem hasBytes_iff {i bytes : Nat} (some : 0 < bytes) (fits : i + bytes ≤ c.sendQueue.bytesAvailable c.sndMax) :
    c.HasBytes (c.sndMax + BitVec.ofNat 32 i) bytes ↔
      seqLE c.sendQueue.beginSeq (c.sndMax + BitVec.ofNat 32 i) := by
  unfold TCPVirtualDataSendQueue.bytesAvailable at fits
  split at fits
  · rename_i ahead
    have inside : seqLE (c.sndMax + BitVec.ofNat 32 i + BitVec.ofNat 32 bytes) c.sendQueue.endSeq := by
      unfold seqLess at ahead
      unfold TCPVirtualDataSendQueue.bufferEndSeq at ahead fits
      unfold seqLE
      bv_omega
    exact ⟨fun hasBytes => hasBytes.1, fun behind => ⟨behind, inside⟩⟩
  · omega

theorem seqLE_add_iff {a b : BitVec 32} {i : Nat} (ordered : seqLE a b) (near : i < 2 ^ 31) :
    seqLE a (b + BitVec.ofNat 32 i) ↔ (b - a).toNat + i < 2 ^ 31 := by
  unfold seqLE at *
  bv_omega

/-- The segments that there is room for follow each other exactly if they are comparable with what is queued and the
FIN is behind them. -/
theorem follow_cut (mss : 0 < c.sndMss.toNat) (some : c.room ≠ 0) : c.Follow c.sndMax (cut c.sndMss.toNat c.room) ↔
      (c.sendFin = true → ∀ j, 0 < j → (j + 1) * c.sndMss.toNat ≤ c.room →
        c.sndFinSeq ≠ c.sndMax + BitVec.ofNat 32 (j * c.sndMss.toNat)) ∧ (c.sndMax - c.sendQueue.beginSeq).toNat +
        ((cut c.sndMss.toNat c.room).sum - min c.room c.sndMss.toNat) < 2 ^ 31 := by
  have queued : c.room ≤ c.sendQueue.bytesAvailable c.sndMax := Nat.min_le_right _ _
  have small := bytesAvailable_lt c.sendQueue c.sndMax
  have atStart := @hasBytes_iff c 0 (min c.room c.sndMss.toNat) (by omega) (by omega)
  have place (i : Nat) (fits : i + c.sndMss.toNat ≤ c.room) :=
    @hasBytes_iff c i c.sndMss.toNat mss (by omega)
  generalize c.room = room at some queued atStart place ⊢
  generalize c.sndMss.toNat = m at mss atStart place ⊢
  rw [BitVec.add_zero] at atStart
  unfold cut
  split
  · rename_i short
    rw [Nat.min_eq_left short] at atStart ⊢
    simp only [Follow, List.sum_singleton, Nat.sub_self, Nat.add_zero, ne_eq, not_true, false_implies,
      and_true, atStart]
    constructor
    · intro behind
      refine ⟨fun _ j later fits => ?_, behind⟩
      have two : 2 * m ≤ (j + 1) * m := Nat.mul_le_mul_right m (by omega)
      omega
    · exact fun both => both.2
  · rename_i long
    have count : 0 < room / m := Nat.div_pos (by omega) mss
    have whole : room / m * m ≤ room := Nat.div_mul_le_self room m
    obtain ⟨k, last⟩ : ∃ k, room / m = k + 1 := ⟨room / m - 1, by omega⟩
    have reaches (j : Nat) : (j + 1) * m ≤ room ↔ j < k + 1 := by
      rw [← last, Nat.lt_iff_add_one_le, Nat.le_div_iff_mul_le mss]
    have lastStart : (k + 1) * m - m = k * m := by
      rw [Nat.succ_mul, Nat.add_sub_cancel]
    rw [follow_replicate, List.sum_replicate_nat, Nat.min_eq_right (by omega), last, lastStart]
    have place' (j : Nat) (inside : j < k + 1) : j * m + m ≤ room := by
      rw [← Nat.succ_mul]
      exact (reaches j).mpr inside
    have lastFits := place' k (by omega)
    constructor
    · intro all
      refine ⟨fun fin j later fits same => ?_, ?_⟩
      · obtain ⟨i, rfl⟩ : ∃ i, j = i + 1 := ⟨j - 1, by omega⟩
        have inside := (reaches (i + 1)).mp fits
        exact (all i (by omega)).2 inside ⟨fin, same.symm⟩
      · have first := (place (0 * m) (place' 0 (by omega))).mp (all 0 (by omega)).1
        rw [Nat.zero_mul, BitVec.add_zero] at first
        have behind := (place (k * m) lastFits).mp (all k (by omega)).1
        exact (seqLE_add_iff first (by omega)).mp behind
    · rintro ⟨finLast, comparable⟩ j inside
      have first : seqLE c.sendQueue.beginSeq c.sndMax := by
        unfold seqLE
        omega
      have before : j * m ≤ k * m := Nat.mul_le_mul_right m (by omega)
      refine ⟨(place (j * m) (place' j inside)).mpr ((seqLE_add_iff first (by omega)).mpr (by omega)), ?_⟩
      rintro more ⟨fin, same⟩
      exact finLast fin (j + 1) (by omega) ((reaches (j + 1)).mpr more) same.symm

theorem cut_sum_le (mss n : Nat) : (cut mss n).sum ≤ n := by
  unfold cut
  split
  · simp
  · rw [List.sum_replicate_nat]
    exact Nat.div_mul_le_self n mss

theorem cut_ne_nil {mss n : Nat} (some : 0 < mss) : cut mss n ≠ [] := by
  unfold cut
  split
  · simp
  · rename_i long
    have count : 0 < n / mss := Nat.div_pos (by omega) some
    simp
    omega

theorem mem_cut {mss n bytes : Nat} (positive : 0 < mss) (any : n ≠ 0) (mem : bytes ∈ cut mss n) :
    1 ≤ bytes ∧ bytes ≤ mss := by
  unfold cut at mem
  split at mem
  · rw [List.mem_singleton] at mem
    omega
  · have whole := List.eq_of_mem_replicate mem
    omega

theorem cut_full (inCongestionWindow : c.outstanding + (cut c.sndMss.toNat c.room).sum ≤ c.sndCwnd.toNat) :
    (∀ bytes ∈ cut c.sndMss.toNat c.room, bytes = c.sndMss.toNat) ∨ cut c.sndMss.toNat c.room =
      [min (min c.sndWnd.toNat c.sndCwnd.toNat - c.outstanding) (c.sendQueue.bytesAvailable c.sndMax)] := by
  unfold cut at *
  split
  · rename_i short
    rw [if_pos short, List.sum_singleton] at inCongestionWindow
    refine Or.inr (congrArg (fun n => [n]) ?_)
    unfold room window at *
    split at inCongestionWindow <;> split <;> omega
  · exact Or.inl fun bytes mem => List.eq_of_mem_replicate mem

theorem room_le_window (some : c.room ≠ 0) : c.outstanding + c.room ≤ c.sndWnd.toNat := by
  unfold room window at *
  split at some <;> split <;> omega

theorem sendsData_idle (idle : c.Idle) : c.SendsData :=
  ⟨false, _, sendData_idle idle, fun _ => ⟨rfl, rfl⟩, nofun⟩

theorem roomFits_of_sendsData (mss : 0 < c.sndMss.toNat) (active : ¬ c.Idle) (sendsData : c.SendsData) :
    c.RoomFits := by
  have some : c.room ≠ 0 := fun none => active (Or.inl none)
  have start : { c with sndNxt := c.sndMax }.exceptSegments = c.exceptSegments := rfl
  obtain ⟨sent, c', sends, -, next⟩ := sendsData
  rw [sendData_active mss active] at sends
  cases segments : sendSegments { c with sndNxt := c.sndMax } (cut c.sndMss.toNat c.room) with
  | error fault =>
      rw [segments] at sends
      cases sends
  | ok c₁ =>
      obtain ⟨rexmitCount, rtseq, rtseqSendtime, notified⟩ :=
        TCPBaseAlg.dataSent_eq (TCPBaseAlg.ackSent { c₁ with sndMax := c₁.sndNxt }) c.sndMax
      rw [segments] at sends
      change TCPBaseAlg.dataSent _ _ >>= _ = _ at sends
      rw [notified] at sends
      cases sends
      obtain ⟨lens, done⟩ := next rfl
      obtain ⟨segs, toIP, lengths, -⟩ := (sendSegments_sent _).of_ok segments
      have same : segs = c.segmentsFrom c.sndMax lens := List.append_cancel_left (toIP.symm.trans done.sent)
      have all : lens = cut c.sndMss.toNat c.room := by
        rw [← lengths, same, map_segmentsFrom]
      subst all
      have follow := follow_of_sendSegments segments (by rw [toIP, same, segmentsFrom_congr start])
      rw [follow_congr start] at follow
      obtain ⟨finLast, comparable⟩ := (follow_cut mss some).mp follow
      have inWindow := done.inWindow
      exact ⟨by omega, finLast, comparable⟩

theorem sendsData_of_roomFits (mss : 0 < c.sndMss.toNat) (active : ¬ c.Idle) (fits : c.RoomFits) : c.SendsData := by
  have some : c.room ≠ 0 := fun none => active (Or.inl none)
  have start : { c with sndNxt := c.sndMax }.exceptSegments = c.exceptSegments := rfl
  have sends := sendData_active mss active
  have inWindow := room_le_window some
  have inCongestionWindow := fits.inCongestionWindow
  have total := cut_sum_le c.sndMss.toNat c.room
  have queued : c.room ≤ c.sendQueue.bytesAvailable c.sndMax := Nat.min_le_right _ _
  have follow := (follow_cut mss some).mpr ⟨fits.finLast, fits.comparable⟩
  rw [← follow_congr start] at follow
  obtain ⟨c₁, segments, toIP, sndNxt⟩ : ∃ c₁,
      sendSegments { c with sndNxt := c.sndMax } (cut c.sndMss.toNat c.room) = .ok c₁ ∧
        c₁.toIP = c.toIP ++ segmentsFrom { c with sndNxt := c.sndMax } c.sndMax (cut c.sndMss.toNat c.room) ∧
          c₁.sndNxt = c.nxtAfterAll c.sndMax (cut c.sndMss.toNat c.room).sum :=
    ⟨_, sendSegments_eq (cut_ne_nil mss) follow, rfl, rfl⟩
  obtain ⟨rexmitCount, rtseq, rtseqSendtime, notified⟩ :=
    TCPBaseAlg.dataSent_eq (TCPBaseAlg.ackSent { c₁ with sndMax := c₁.sndNxt }) c.sndMax
  rw [segments] at sends
  change _ = TCPBaseAlg.dataSent _ _ >>= _ at sends
  rw [notified] at sends
  refine ⟨true, _, sends, nofun, fun _ => ⟨cut c.sndMss.toNat c.room, ?_⟩⟩
  exact {
    sent := toIP.trans (by rw [segmentsFrom_congr start])
    some := cut_ne_nil mss
    sizes := fun bytes mem => mem_cut mss some mem
    full := cut_full fits.inCongestionWindow
    inWindow := by omega
    queued := by omega
    sndMax := sndNxt
    sndNxt := rfl }

/-- `sendData` sends what comes next exactly if there is nothing to send or the bytes there is room for fit. -/
theorem sendsData_iff (mss : 0 < c.sndMss.toNat) : c.SendsData ↔ c.Idle ∨ c.RoomFits := by
  by_cases idle : c.Idle
  · exact ⟨fun _ => Or.inl idle, fun _ => sendsData_idle idle⟩
  constructor
  · intro sends
    exact Or.inr (roomFits_of_sendsData mss idle sends)
  · rintro (none | fits)
    · exact absurd none idle
    · exact sendsData_of_roomFits mss idle fits

theorem sendsData_iff_wrapped :
    let c : TCPConnection := { create .reno with
      sendQueue := ⟨0xFFFFFF00, 3000⟩, sndUna := 0xFFFFFF00, sndMax := 0xFFFFFFF0, sndWnd := 4096, sndCwnd := 3072 }
    c.SendsData ↔ c.Idle ∨ c.RoomFits := sendsData_iff (by decide)

/-- The window is used up, and a SEND comes after the CLOSE that is deferred. The next acknowledgement makes room for two
segments: the first takes the FIN, and the number of the byte behind it is left out. -/
theorem fin_between_segments : ∃ c c₁ c₂,
    run step (create .reno) (exampleDeferred ++ [(5, .command (.send ⟨"data", 16384⟩))]) = .ok c ∧
      c.acceptAck (exampleAck 1025) = .ok c₁ ∧ TCPBaseAlg.receivedDataAck c₁ = .ok c₂ ∧
        seqLE c₂.sndUna c₂.sndMax ∧ 0 < c₂.sndMss.toNat ∧
          ¬ (TCPTahoeRenoFamily.increaseCwnd c₂).SendsData := by
  refine ⟨_, _, _, rfl, rfl, rfl, by decide, by decide, fun sends => ?_⟩
  have fits := roomFits_of_sendsData (by decide) (by decide) sends
  exact fits.finLast rfl 1 (by decide) (by decide) (by decide)

end TCPConnection

end IPv6Suite
