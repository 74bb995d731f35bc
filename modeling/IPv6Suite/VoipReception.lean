import IPv6Suite.RTPVoip
import IPv6Suite.RTPSequence
import IPv6Suite.Lib.Ensures
import Mathlib.Tactic.Linarith

namespace IPv6Suite

open Lib

namespace RTPVoip

/-- A discard would continue a loss event, but there is none. -/
def Stale (v : RTPVoip) : Prop := v.discarded = true ∧ v.elossEvents = []
deriving Decidable

/-- The network delay once a packet has been looked at: the first one of a talkspurt sets it. -/
def delayAt (v : RTPVoip) (now timestamp : SimTime) : SimTime :=
  if v.talkspurtBegin now then now - timestamp else v.networkDelay

/-- Frames that should have been played are discarded. -/
def Late (v : RTPVoip) (now timestamp : SimTime) : Prop :=
  v.talkspurtBegin now = false ∧ ∃ timer ∈ v.playoutTimer, v.playoutTime timestamp < timer.arrivalTime
deriving Decidable

/-- The frame takes the place of one that is still to be played. -/
def Displaces (v : RTPVoip) (now timestamp : SimTime) : Prop :=
  ¬ v.Late now timestamp ∧ v.cb.full = true ∧
    ∃ front ∈ (v.cb.sort VoipFrame.le).elements.head?, now < front.timestamp + v.delayAt now timestamp + v.params.jitterDelay

variable {v : RTPVoip} {now : SimTime} {f : VoipFrame} {p : RTPPacket} {rme : RTPMemberEntry} {seqNo : BitVec 32}

theorem countDiscard_stale (stale : v.Stale) (seqNo : BitVec 32) : v.countDiscard seqNo = .error .outOfBounds := by
  unfold countDiscard lossEvents
  rw [stale.1, stale.2]
  rfl

theorem countDiscard_eq (recorded : ¬ v.Stale) (seqNo : BitVec 32) :
    ∃ events, v.countDiscard seqNo = .ok { v with db := v.db ++ [seqNo], elossEvents := events, discarded := true } ∧
      events.sum = v.elossEvents.sum + 1 ∧ events ≠ [] := by
  unfold countDiscard lossEvents
  cases flag : v.discarded with
  | false =>
      refine ⟨v.elossEvents ++ [1], rfl, ?_, List.append_ne_nil_of_right_ne_nil _ (List.cons_ne_nil _ _)⟩
      rw [List.sum_append, List.sum_singleton]
  | true =>
      have some : v.elossEvents ≠ [] := fun empty => recorded ⟨flag, empty⟩
      refine ⟨v.elossEvents.dropLast ++ [v.elossEvents.getLast some + 1], ?_, ?_,
        List.append_ne_nil_of_right_ne_nil _ (List.cons_ne_nil _ _)⟩
      · rw [List.getLast?_eq_some_getLast some]
        rfl
      · have all := congrArg List.sum (List.dropLast_append_getLast some)
        rw [List.sum_append, List.sum_singleton] at all
        rw [List.sum_append, List.sum_singleton, ← all, BitVec.add_assoc]

/-- The state a frame is buffered in -/
def opened (v : RTPVoip) (now : SimTime) (ssrc : BitVec 32) (timestamp : SimTime) : RTPVoip :=
  if v.talkspurtBegin now then
    { v with
      networkDelay := now - timestamp
      playoutTimer := some ⟨(v.playoutTimer.map PlayoutTimer.contextPointer).getD ssrc, true, now, now + v.params.jitterDelay⟩
      emodelTimer := if v.playoutTimer.isNone then some (now + 30) else v.emodelTimer }
  else v

theorem networkDelay_opened (ssrc : BitVec 32) (timestamp : SimTime) :
    (v.opened now ssrc timestamp).networkDelay = v.delayAt now timestamp := by
  unfold opened delayAt
  split <;> rfl

theorem params_opened (ssrc : BitVec 32) (timestamp : SimTime) : (v.opened now ssrc timestamp).params = v.params := by
  unfold opened
  split <;> rfl

theorem cb_opened (ssrc : BitVec 32) (timestamp : SimTime) : (v.opened now ssrc timestamp).cb = v.cb := by
  unfold opened
  split <;> rfl

theorem frames_opened (ssrc : BitVec 32) (timestamp : SimTime) : (v.opened now ssrc timestamp).frames = v.frames := by
  unfold opened
  split <;> rfl

theorem misordered_opened (ssrc : BitVec 32) (timestamp : SimTime) :
    (v.opened now ssrc timestamp).misordered = v.misordered := by
  unfold opened
  split <;> rfl

theorem db_opened (ssrc : BitVec 32) (timestamp : SimTime) : (v.opened now ssrc timestamp).db = v.db := by
  unfold opened
  split <;> rfl

theorem elossEvents_opened (ssrc : BitVec 32) (timestamp : SimTime) :
    (v.opened now ssrc timestamp).elossEvents = v.elossEvents := by
  unfold opened
  split <;> rfl

theorem elastReceived_opened (ssrc : BitVec 32) (timestamp : SimTime) :
    (v.opened now ssrc timestamp).elastReceived = v.elastReceived := by
  unfold opened
  split <;> rfl

/-- The timer does not depend on what is known of the sequence numbers. -/
theorem opened_with (probableDropped : List (List (BitVec 32))) (misordered : CircularBuffer VoipFrame) (ssrc : BitVec 32)
    (timestamp : SimTime) : { v with probableDropped, misordered }.opened now ssrc timestamp =
      { v.opened now ssrc timestamp with probableDropped, misordered } := by
  unfold opened
  change (if v.talkspurtBegin now then _ else _) = _
  split <;> rfl

theorem stale_opened (ssrc : BitVec 32) (timestamp : SimTime) : (v.opened now ssrc timestamp).Stale ↔ v.Stale := by
  unfold opened
  split <;> rfl

theorem beginTalkspurt_eq {timer : PlayoutTimer} (created : v.playoutTimer = some timer) (timestamp : SimTime) :
    v.beginTalkspurt now timestamp = .ok { v with
      networkDelay := now - timestamp
      playoutTimer := some { timer with isScheduled := true, sendingTime := now, arrivalTime := now + v.params.jitterDelay } } := by
  have ahead : ¬ now + v.params.jitterDelay < now := by
    have nonneg := v.params.jitterDelay_nonneg
    linarith
  unfold beginTalkspurt PlayoutTimer.reschedule
  rw [created, deref_some, ok_bind, if_neg ahead]
  rfl

theorem prepareTimer_eq (fresh : v.playoutTimer = none → v.emodelTimer = none) (ssrc : BitVec 32) (rme : RTPMemberEntry)
    (timestamp : SimTime) : v.prepareTimer now ssrc rme timestamp = .ok (v.opened now ssrc timestamp) := by
  unfold opened prepareTimer
  cases created : v.playoutTimer with
  | none =>
      have begins : v.talkspurtBegin now = true := by
        unfold talkspurtBegin
        rw [created]
      have first : v.createTimer now ssrc rme =
          { v with playoutTimer := some ⟨ssrc, false, 0, 0⟩, emodelTimer := some (now + 30) } := by
        unfold createTimer ecalculateRFactor
        rw [created, fresh created]
        rfl
      rw [if_pos begins, if_pos begins, first, beginTalkspurt_eq rfl]
      rfl
  | some timer =>
      have same : v.createTimer now ssrc rme = v := by
        unfold createTimer
        rw [created]
        rfl
      rw [same]
      split
      · rw [beginTalkspurt_eq created]
        rfl
      · rfl

theorem frameCountCalc_plain {payloadLength : BitVec 32} (plain : ¬ payloadLength < p.payloadLength) :
    frameCountCalc payloadLength p = .ok 1 := by
  unfold frameCountCalc
  rw [if_neg plain]
  rfl

theorem processRTPData_eq (fresh : v.playoutTimer = none → v.emodelTimer = none)
    (plain : ¬ v.params.payloadLength < p.payloadLength) :
    processRTPData now v p rme = (do
      let thisFrame ← v.frame p.contextPointer
      let v ← (v.opened now p.ssrc p.timestamp).bufferFrame now thisFrame
      let v ← v.deleteFrame p.contextPointer
      return v.sorted) := by
  have looks : (v.opened now p.ssrc p.timestamp).frame p.contextPointer = v.frame p.contextPointer := by
    cases p.contextPointer with
    | none => rfl
    | some address =>
        unfold frame
        rw [frames_opened]
  unfold processRTPData
  rw [prepareTimer_eq fresh, ok_bind, params_opened, frameCountCalc_plain plain, looks]
  rfl

theorem timer_opened (v : RTPVoip) (now : SimTime) (ssrc : BitVec 32) (timestamp : SimTime) :
    ∃ timer, (v.opened now ssrc timestamp).playoutTimer = some timer ∧
      ((v.opened now ssrc timestamp).playoutTime timestamp < timer.arrivalTime ↔ v.Late now timestamp) := by
  unfold opened Late
  cases begins : v.talkspurtBegin now with
  | true =>
      refine ⟨_, rfl, iff_of_false ?_ fun late => Bool.noConfusion late.1⟩
      change ¬ timestamp + (now - timestamp) + v.params.jitterDelay < now + v.params.jitterDelay
      rw [add_sub_cancel]
      exact lt_irrefl _
  | false =>
      rw [if_neg Bool.false_ne_true]
      cases created : v.playoutTimer with
      | none =>
          unfold talkspurtBegin at begins
          rw [created] at begins
          cases begins
      | some timer => exact ⟨timer, rfl, fun late => ⟨rfl, timer, rfl, late⟩, fun ⟨_, _, same, late⟩ => by cases same; exact late⟩

variable {ssrc : BitVec 32}

theorem bufferFrame_late (ssrc : BitVec 32) (late : v.Late now f.timestamp) :
    (v.opened now ssrc f.timestamp).bufferFrame now f = (v.opened now ssrc f.timestamp).countDiscard f.seqNo := by
  obtain ⟨timer, scheduled, before⟩ := v.timer_opened now ssrc f.timestamp
  unfold bufferFrame
  rw [scheduled, deref_some, ok_bind, if_pos (before.mpr late)]

theorem bufferFrame_full (ssrc : BitVec 32) (onTime : ¬ v.Late now f.timestamp) (full : v.cb.full = true) :
    (v.opened now ssrc f.timestamp).bufferFrame now f = (v.opened now ssrc f.timestamp).replaceFront now f := by
  obtain ⟨timer, scheduled, before⟩ := v.timer_opened now ssrc f.timestamp
  unfold bufferFrame
  rw [scheduled, deref_some, ok_bind, if_neg (mt before.mp onTime), cb_opened, if_pos full]

theorem bufferFrame_room (ssrc : BitVec 32) (onTime : ¬ v.Late now f.timestamp) (room : v.cb.full = false) :
    (v.opened now ssrc f.timestamp).bufferFrame now f = .ok { v.opened now ssrc f.timestamp with
      cb := v.cb.push_back f
      discarded := false
      elastReceived := (v.opened now ssrc f.timestamp).elastReceived + 1 } := by
  obtain ⟨timer, scheduled, before⟩ := v.timer_opened now ssrc f.timestamp
  unfold bufferFrame
  rw [scheduled, deref_some, ok_bind, if_neg (mt before.mp onTime), cb_opened,
    if_neg (Bool.eq_false_iff.mp room), ← scheduled]
  rfl

/-- No pointer is null or dangling, and no list is read past its end. -/
def MemorySafe {α : Type} (r : Exec α) : Prop :=
  Ensures (fun fault => fault = .assertFailed ∨ fault = .fatalError) (fun _ => True) r

theorem memorySafe_assertFailed {α : Type} : MemorySafe (.error .assertFailed : Exec α) := .inl rfl

theorem not_memorySafe_useAfterFree {α : Type} : ¬ MemorySafe (.error .useAfterFree : Exec α) := by
  rintro (fault | fault) <;> cases fault

theorem memorySafe_then {α β : Type} {r : Exec α} (g : α → β) : MemorySafe (r >>= fun a => .ok (g a)) ↔ MemorySafe r := by
  cases r <;> exact Iff.rfl

theorem countDiscard_safe (seqNo : BitVec 32) : MemorySafe (v.countDiscard seqNo) ↔ ¬ v.Stale := by
  constructor
  · intro safe stale
    rw [countDiscard_stale stale] at safe
    rcases safe with fault | fault <;> cases fault
  · intro recorded
    obtain ⟨events, counted, -⟩ := countDiscard_eq recorded seqNo
    rw [counted]
    exact trivial

theorem replaceFront_safe : MemorySafe (v.replaceFront now f) ↔
    ¬ (v.Stale ∧ ∃ front ∈ (v.cb.sort VoipFrame.le).elements.head?, now < v.playoutTime front.timestamp) := by
  unfold replaceFront
  dsimp only
  cases first : (v.cb.sort VoipFrame.le).elements.head? with
  | none => exact iff_of_true memorySafe_assertFailed fun both => nomatch both.2.choose_spec.1
  | some front =>
      by_cases ahead : now < v.playoutTime front.timestamp
      · have discards : ∃ discard ∈ some front, now < v.playoutTime discard.timestamp := ⟨front, rfl, ahead⟩
        rw [deref_some, ok_bind, assert_pos ahead, ok_bind, and_iff_left discards]
        exact (memorySafe_then _).trans (countDiscard_safe front.seqNo)
      · have keeps : ¬ ∃ discard ∈ some front, now < v.playoutTime discard.timestamp := by
          rintro ⟨discard, same, below⟩
          cases same
          exact ahead below
        rw [deref_some, ok_bind, assert_neg ahead]
        exact iff_of_true memorySafe_assertFailed fun both => keeps both.2

theorem bufferFrame_safe : MemorySafe ((v.opened now ssrc f.timestamp).bufferFrame now f) ↔
    ¬ (v.Stale ∧ (v.Late now f.timestamp ∨ v.Displaces now f.timestamp)) := by
  by_cases late : v.Late now f.timestamp
  · rw [bufferFrame_late ssrc late, countDiscard_safe, stale_opened]
    exact not_congr (and_iff_left (.inl late)).symm
  · cases full : v.cb.full with
    | false =>
        rw [bufferFrame_room ssrc late full]
        refine iff_of_true trivial fun both => both.2.elim late fun displaces => ?_
        exact Bool.false_ne_true (full.symm.trans displaces.2.1)
    | true =>
        rw [bufferFrame_full ssrc late full, replaceFront_safe, stale_opened, cb_opened]
        unfold Displaces playoutTime
        rw [networkDelay_opened, params_opened]
        simp only [late, full, not_false_eq_true, true_and, false_or]

theorem frame_live {address : Nat} (stored : v.frames[address]? = some f) : v.frame (some address) = .ok f := by
  change Exec.deref .useAfterFree v.frames[address]? = _
  rw [stored, deref_some]

theorem frame_dead {address : Nat} (dead : address ∉ v.frames) : v.frame (some address) = .error .useAfterFree := by
  change Exec.deref .useAfterFree v.frames[address]? = _
  rw [Std.TreeMap.getElem?_eq_none dead, Exec.deref_none]

theorem deleteFrame_live {address : Nat} (live : address ∈ v.frames) :
    v.deleteFrame (some address) = .ok { v with frames := v.frames.erase address } := if_pos live

theorem deleteFrame_dead {address : Nat} (dead : address ∉ v.frames) :
    v.deleteFrame (some address) = .error .useAfterFree := if_neg dead

theorem countDiscard_shape {after : RTPVoip} (counts : v.countDiscard seqNo = .ok after) :
    ∃ db elossEvents, after = { v with db, elossEvents, discarded := true } := by
  unfold countDiscard at counts
  obtain ⟨elossEvents, -, rest⟩ := bind_eq_ok.mp counts
  cases rest
  exact ⟨_, _, rfl⟩

theorem bufferFrame_shape {after : RTPVoip} (buffers : v.bufferFrame now f = .ok after) :
    ∃ cb db discarded elossEvents elastReceived,
      after = { v with cb, db, discarded, elossEvents, elastReceived } := by
  unfold bufferFrame at buffers
  obtain ⟨timer, -, rest⟩ := bind_eq_ok.mp buffers
  split at rest
  · obtain ⟨db, elossEvents, rfl⟩ := countDiscard_shape rest
    exact ⟨_, _, _, _, _, rfl⟩
  · split at rest
    · unfold replaceFront at rest
      obtain ⟨discard, -, rest⟩ := bind_eq_ok.mp rest
      obtain ⟨-, -, rest⟩ := bind_eq_ok.mp rest
      obtain ⟨counted, counts, rest⟩ := bind_eq_ok.mp rest
      obtain ⟨db, elossEvents, rfl⟩ := countDiscard_shape counts
      cases rest
      exact ⟨_, _, _, _, _, rfl⟩
    · cases rest
      exact ⟨_, _, _, _, _, rfl⟩

theorem processRTPData_live {address : Nat} (fresh : v.playoutTimer = none → v.emodelTimer = none)
    (plain : ¬ v.params.payloadLength < p.payloadLength) (pointer : p.contextPointer = some address)
    (stored : v.frames[address]? = some f) :
    processRTPData now v p rme = (v.opened now p.ssrc p.timestamp).bufferFrame now f >>= fun buffered =>
      .ok { buffered with frames := v.frames.erase address, cb := buffered.cb.sort VoipFrame.le } := by
  rw [processRTPData_eq fresh plain, pointer, frame_live stored, ok_bind]
  cases buffers : (v.opened now p.ssrc p.timestamp).bufferFrame now f with
  | error fault => rfl
  | ok buffered =>
      obtain ⟨cb, db, discarded, elossEvents, elastReceived, rfl⟩ := bufferFrame_shape buffers
      have live : address ∈ (v.opened now p.ssrc p.timestamp).frames := by
        rw [frames_opened]
        exact StdMap.mem_iff_exists.mpr ⟨f, stored⟩
      rw [ok_bind, ok_bind, deleteFrame_live (by exact live), ok_bind, frames_opened]
      rfl

/-- A packet with a live frame that is looked at -/
theorem processRTPData_safe {address : Nat} (fresh : v.playoutTimer = none → v.emodelTimer = none)
    (plain : ¬ v.params.payloadLength < p.payloadLength) (pointer : p.contextPointer = some address)
    (content : ∀ f, v.frames[address]? = some f → f.timestamp = p.timestamp) :
    MemorySafe (processRTPData now v p rme) ↔
      address ∈ v.frames ∧ ¬ (v.Stale ∧ (v.Late now p.timestamp ∨ v.Displaces now p.timestamp)) := by
  by_cases live : address ∈ v.frames
  · obtain ⟨f, stored⟩ := StdMap.mem_iff_exists.mp live
    rw [processRTPData_live fresh plain pointer stored, memorySafe_then, ← content f stored, and_iff_right live]
    exact bufferFrame_safe
  · rw [processRTPData_eq fresh plain, pointer, frame_dead live]
    exact iff_of_false not_memorySafe_useAfterFree fun both => live both.1

/-! The sequence numbers -/

variable {address : Nat} {s : RTPMemberEntry}

theorem handleMisorderedPackets_dead (plain : ¬ v.params.payloadLength < p.payloadLength)
    (pointer : p.contextPointer = some address) (dead : address ∉ v.frames) :
    v.handleMisorderedPackets s p = .error .useAfterFree := by
  unfold handleMisorderedPackets
  rw [frameCountCalc_plain plain, pointer, deleteFrame_dead dead, frame_dead dead]
  split <;> rfl

theorem handleMisorderedPackets_live (plain : ¬ v.params.payloadLength < p.payloadLength)
    (pointer : p.contextPointer = some address) (stored : v.frames[address]? = some p.frame)
    (first : p.frame ∉ v.misordered.elements) :
    v.handleMisorderedPackets s p = .ok ({ v with
      probableDropped := notDropped p.frame.seqNo v.probableDropped
      misordered := v.misordered.push_back p.frame }, s, p) := by
  unfold handleMisorderedPackets
  rw [frameCountCalc_plain plain, pointer, frame_live stored, if_neg first]
  rfl

end RTPVoip

/-- The number is near enough to the highest one. -/
def RTPMemberEntry.Accepts (s : RTPMemberEntry) (seq : BitVec 16) : Prop :=
  s.sender = false ∨ (seq - s.maxSeq).toNat < MAX_DROPOUT ∨ RTP_SEQ_MOD - MAX_MISORDER < (seq - s.maxSeq).toNat
deriving Decidable

namespace RTPVoip

variable {rtp : RTP RTPVoip} {raw : RTPMemberEntry} {p : RTPPacket} {now : SimTime} {address : Nat}

theorem updateMember_refused (refused : ¬ (rtp.memberEntry raw p.ssrc).Accepts p.seqNo) :
    ∃ badSeq, rtp.updateMember hooks raw p = .error .assertFailed ∨
      rtp.updateMember hooks raw p = .ok (rtp.derived, { rtp.memberEntry raw p.ssrc with badSeq }, p, false) := by
  obtain ⟨sender, refused⟩ := not_or.mp refused
  obtain ⟨far, behind⟩ := not_or.mp refused
  unfold RTP.updateMember update_seq
  dsimp only
  rw [if_pos (Bool.eq_true_of_not_eq_false sender), if_neg far, if_pos (not_lt.mp behind)]
  by_cases again : p.seqNo.setWidth 32 ≠ (rtp.memberEntry raw p.ssrc).badSeq
  · rw [assert_pos again]
    exact ⟨_, .inr rfl⟩
  · rw [assert_neg again]
    exact ⟨0, .inl rfl⟩

theorem updateMember_inOrder (inOrder : (rtp.memberEntry raw p.ssrc).sender = false ∨
      (p.seqNo - (rtp.memberEntry raw p.ssrc).maxSeq).toNat < MAX_DROPOUT) :
    ∃ probableDropped rme, rtp.updateMember hooks raw p = .ok ({ rtp.derived with probableDropped }, rme, p, true) := by
  unfold RTP.updateMember
  dsimp only
  cases sender : (rtp.memberEntry raw p.ssrc).sender with
  | false => exact ⟨_, _, rfl⟩
  | true =>
      have near := inOrder.resolve_left (by rw [sender]; exact Bool.noConfusion)
      unfold update_seq
      dsimp only
      rw [if_pos rfl, if_pos near]
      by_cases wraps : p.seqNo < (rtp.memberEntry raw p.ssrc).maxSeq
      · rw [if_pos wraps]
        exact ⟨_, _, rfl⟩
      · rw [if_neg wraps]
        split <;> exact ⟨_, _, rfl⟩

theorem updateMember_misordered (sender : (rtp.memberEntry raw p.ssrc).sender = true)
    (far : ¬ (p.seqNo - (rtp.memberEntry raw p.ssrc).maxSeq).toNat < MAX_DROPOUT)
    (near : RTP_SEQ_MOD - MAX_MISORDER < (p.seqNo - (rtp.memberEntry raw p.ssrc).maxSeq).toNat) :
    rtp.updateMember hooks raw p = rtp.derived.handleMisorderedPackets (rtp.memberEntry raw p.ssrc) p >>= fun after =>
      .ok (after.1, { after.2.1 with received := after.2.1.received + 1 }, after.2.2, true) := by
  unfold RTP.updateMember update_seq
  dsimp only
  rw [if_pos sender, if_neg far, if_neg (not_le.mpr near)]
  rfl

/-- What the state has to be for a packet to be processed without touching what is not there -/
structure Receives (rtp : RTP RTPVoip) (p : RTPPacket) (address : Nat) : Prop where
  fresh : rtp.derived.playoutTimer = none → rtp.derived.emodelTimer = none
  plain : ¬ rtp.derived.params.payloadLength < p.payloadLength
  pointer : p.contextPointer = some address
  content : ∀ f, rtp.derived.frames[address]? = some f → f = p.frame
  first : address ∈ rtp.derived.frames → p.frame ∉ rtp.derived.misordered.elements

theorem updateMember_accepted (receives : Receives rtp p address) (accepts : (rtp.memberEntry raw p.ssrc).Accepts p.seqNo)
    (live : address ∈ rtp.derived.frames) : ∃ probableDropped misordered rme,
      rtp.updateMember hooks raw p = .ok ({ rtp.derived with probableDropped, misordered }, rme, p, true) ∧
      ∀ f ∈ misordered.elements, f ∈ rtp.derived.misordered.elements ∨ f = p.frame := by
  by_cases inOrder : (rtp.memberEntry raw p.ssrc).sender = false ∨
      (p.seqNo - (rtp.memberEntry raw p.ssrc).maxSeq).toNat < MAX_DROPOUT
  · obtain ⟨probableDropped, rme, updates⟩ := updateMember_inOrder inOrder
    exact ⟨probableDropped, rtp.derived.misordered, rme, updates, fun f => .inl⟩
  · obtain ⟨sender, far⟩ := not_or.mp inOrder
    have near := (accepts.resolve_left sender).resolve_left far
    obtain ⟨f, stored⟩ := StdMap.mem_iff_exists.mp live
    cases receives.content f stored
    rw [updateMember_misordered (Bool.eq_true_of_not_eq_false sender) far near,
      handleMisorderedPackets_live receives.plain receives.pointer stored (receives.first live)]
    exact ⟨_, _, _, rfl, fun f => CircularBuffer.mem_push_back⟩

theorem processRTP_safe (receives : Receives rtp p address) :
    MemorySafe (rtp.processRTP hooks now raw p) ↔ ((rtp.memberEntry raw p.ssrc).Accepts p.seqNo →
      address ∈ rtp.derived.frames ∧
        ¬ (rtp.derived.Stale ∧ (rtp.derived.Late now p.timestamp ∨ rtp.derived.Displaces now p.timestamp))) := by
  have content (f : VoipFrame) (stored : rtp.derived.frames[address]? = some f) : f.timestamp = p.timestamp := by
    rw [receives.content f stored]
    rfl
  by_cases accepts : (rtp.memberEntry raw p.ssrc).Accepts p.seqNo
  · rw [forall_prop_of_true accepts]
    by_cases live : address ∈ rtp.derived.frames
    · obtain ⟨probableDropped, misordered, rme, updates, -⟩ := updateMember_accepted receives accepts live
      unfold RTP.processRTP
      rw [updates]
      exact (memorySafe_then _).trans (processRTPData_safe receives.fresh receives.plain receives.pointer content)
    · refine iff_of_false (fun safe => ?_) fun both => live both.1
      by_cases inOrder : (rtp.memberEntry raw p.ssrc).sender = false ∨
          (p.seqNo - (rtp.memberEntry raw p.ssrc).maxSeq).toNat < MAX_DROPOUT
      · obtain ⟨probableDropped, rme, updates⟩ := updateMember_inOrder inOrder
        unfold RTP.processRTP at safe
        rw [updates] at safe
        have data := (memorySafe_then _).mp safe
        exact live ((processRTPData_safe (v := { rtp.derived with probableDropped }) receives.fresh receives.plain
          receives.pointer content).mp data).1
      · obtain ⟨sender, far⟩ := not_or.mp inOrder
        have near := (accepts.resolve_left sender).resolve_left far
        unfold RTP.processRTP at safe
        rw [updateMember_misordered (Bool.eq_true_of_not_eq_false sender) far near,
          handleMisorderedPackets_dead receives.plain receives.pointer live] at safe
        exact not_memorySafe_useAfterFree safe
  · refine iff_of_true ?_ fun accepts' => absurd accepts' accepts
    obtain ⟨badSeq, fails | refuses⟩ := updateMember_refused accepts
    · unfold RTP.processRTP
      rw [fails]
      exact memorySafe_assertFailed
    · unfold RTP.processRTP
      rw [refuses]
      exact trivial

/-- What a packet does when it is processed: it is refused, or its frame is buffered or discarded and deleted. -/
theorem processRTP_cases {after : RTP RTPVoip} (receives : Receives rtp p address)
    (steps : rtp.processRTP hooks now raw p = .ok after) :
    (¬ (rtp.memberEntry raw p.ssrc).Accepts p.seqNo ∧
      ∃ badSeq, after = { rtp with
        memberSet := rtp.memberSet.insert p.ssrc { rtp.memberEntry raw p.ssrc with badSeq } }) ∨
    ((rtp.memberEntry raw p.ssrc).Accepts p.seqNo ∧ address ∈ rtp.derived.frames ∧
      ∃ probableDropped misordered rme buffered,
        rtp.updateMember hooks raw p = .ok ({ rtp.derived with probableDropped, misordered }, rme, p, true) ∧
        (∀ f ∈ misordered.elements, f ∈ rtp.derived.misordered.elements ∨ f = p.frame) ∧
        ({ rtp.derived with probableDropped, misordered }.opened now p.ssrc p.timestamp).bufferFrame now p.frame =
          .ok buffered ∧
        after = { rtp with
          derived := { buffered with
            frames := rtp.derived.frames.erase address, cb := buffered.cb.sort VoipFrame.le }
          memberSet := rtp.memberSet.insert p.ssrc (rme.collect now p.timestamp) }) := by
  by_cases accepts : (rtp.memberEntry raw p.ssrc).Accepts p.seqNo
  · right
    have safe : MemorySafe (rtp.processRTP hooks now raw p) := by
      rw [steps]
      exact trivial
    have live := ((processRTP_safe receives).mp safe accepts).1
    obtain ⟨f, stored⟩ := StdMap.mem_iff_exists.mp live
    cases receives.content f stored
    obtain ⟨probableDropped, misordered, rme, updates, known⟩ := updateMember_accepted receives accepts live
    refine ⟨accepts, live, probableDropped, misordered, rme, ?_⟩
    unfold RTP.processRTP at steps
    rw [updates, ok_bind] at steps
    obtain ⟨derived, processes, rest⟩ := bind_eq_ok.mp steps
    change processRTPData now { rtp.derived with probableDropped, misordered } p rme = .ok derived at processes
    rw [processRTPData_live (by exact receives.fresh) (by exact receives.plain) receives.pointer (by exact stored)] at processes
    obtain ⟨buffered, buffers, processed⟩ := bind_eq_ok.mp processes
    cases processed
    cases rest
    exact ⟨buffered, updates, known, buffers, rfl⟩
  · left
    refine ⟨accepts, ?_⟩
    unfold RTP.processRTP at steps
    obtain ⟨badSeq, fails | refuses⟩ := updateMember_refused accepts
    · rw [fails] at steps
      cases steps
    · rw [refuses] at steps
      cases steps
      exact ⟨badSeq, rfl⟩

/-- The state once the earliest frame has been played -/
def popped (v : RTPVoip) (frame : VoipFrame) : RTPVoip :=
  { v with cb := (v.cb.sort VoipFrame.le).pop_front, discarded := false, lastPlayedFrame := frame }

variable {v v' : RTPVoip} {frame next : VoipFrame} {rest : List VoipFrame}

theorem some_of_sorted (sorted : (v.cb.sort VoipFrame.le).elements = frame :: rest) : v.cb.elements ≠ [] := by
  intro empty
  rw [CircularBuffer.elements_sort, empty] at sorted
  cases sorted

theorem empty_of_sorted (sorted : (v.cb.sort VoipFrame.le).elements = []) : v.cb.elements = [] := by
  have length := List.length_insertionSort VoipFrame.le v.cb.elements
  rw [← CircularBuffer.elements_sort, sorted] at length
  exact List.length_eq_zero_iff.mp length.symm

theorem playout_empty (empty : v.cb.elements = []) : playoutBufferedPacket now v = .error .assertFailed := by
  unfold playoutBufferedPacket
  rw [assert_neg (not_not.mpr empty)]
  rfl

theorem playout_last (sorted : (v.cb.sort VoipFrame.le).elements = [frame]) :
    playoutBufferedPacket now v = .ok (v.popped frame, frame) := by
  unfold playoutBufferedPacket
  rw [assert_pos (some_of_sorted sorted), ok_bind]
  dsimp only
  rw [CircularBuffer.elements_pop_front, sorted]
  rfl

theorem playout_next (sorted : (v.cb.sort VoipFrame.le).elements = frame :: next :: rest) :
    playoutBufferedPacket now v = Exec.deref .nullDeref v.playoutTimer >>= fun timer =>
      timer.reschedule now (v.playoutTime next.timestamp) >>= fun timer =>
        .ok ({ v.popped frame with playoutTimer := some timer }, frame) := by
  unfold playoutBufferedPacket
  rw [assert_pos (some_of_sorted sorted), ok_bind]
  dsimp only
  rw [CircularBuffer.elements_pop_front, sorted]
  rfl

theorem playout_cases (plays : playoutBufferedPacket now v = .ok (v', frame)) :
    (v.cb.sort VoipFrame.le).elements = [frame] ∧ v' = v.popped frame ∨
      ∃ next rest timer, (v.cb.sort VoipFrame.le).elements = frame :: next :: rest ∧ v.playoutTimer = some timer ∧
        now ≤ v.playoutTime next.timestamp ∧ v' = { v.popped frame with
          playoutTimer := some { timer with
            isScheduled := true, sendingTime := now, arrivalTime := v.playoutTime next.timestamp } } := by
  cases sorted : (v.cb.sort VoipFrame.le).elements with
  | nil =>
      rw [playout_empty (empty_of_sorted sorted)] at plays
      cases plays
  | cons first rest =>
      cases rest with
      | nil =>
          rw [playout_last sorted] at plays
          cases plays
          exact .inl ⟨rfl, rfl⟩
      | cons next rest =>
          rw [playout_next sorted] at plays
          obtain ⟨timer, created, plays⟩ := bind_eq_ok.mp plays
          obtain ⟨timer', reschedules, plays⟩ := bind_eq_ok.mp plays
          unfold PlayoutTimer.reschedule at reschedules
          split at reschedules
          · cases reschedules
          · cases reschedules
            cases plays
            exact .inr ⟨next, rest, timer, rfl, (deref_eq_ok _ _ _).mp created, not_lt.mp ‹_›, rfl⟩

end RTPVoip

end IPv6Suite
